import SequenceClassification.Text.Blank
import SequenceClassification.Text.GeneralCategory

/-!
Quoted texts in messages. A text stands between single quotes, or between double quotes when it holds a
single one and no double one; the quote, the backslash and what cannot be printed are escaped.
-/
namespace SequenceClassification.Text

def hexPadded (width n : Nat) : List Char :=
  let digits := Nat.toDigits 16 n
  List.replicate (width - digits.length) '0' ++ digits

/-- Characters that are shown as they are: all but separators other than the space and the control group. -/
def isPrintable (c : Char) : Bool := c == ' ' || !(isControl c || isSeparator c)

def quoteFor (s : List Char) : Char := if s.contains '\'' && !s.contains '"' then '"' else '\''

def escapeChar (q c : Char) : List Char :=
  if c == q || c == '\\' then ['\\', c]
  else if c == '\n' then ['\\', 'n']
  else if c == '\r' then ['\\', 'r']
  else if c == '\t' then ['\\', 't']
  else if isPrintable c then [c]
  else if c.toNat < 0x100 then '\\' :: 'x' :: hexPadded 2 c.toNat
  else if c.toNat < 0x10000 then '\\' :: 'u' :: hexPadded 4 c.toNat
  else '\\' :: 'U' :: hexPadded 8 c.toNat

def quoted (s : String) : String :=
  let q := quoteFor s.toList
  String.ofList (q :: (s.toList.flatMap (escapeChar q) ++ [q]))

def bracketed (items : List String) : String := "[" ++ ", ".intercalate items ++ "]"

end SequenceClassification.Text
