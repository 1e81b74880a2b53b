/-!
UTF-8. Writing is one to four octets per character. Reading consumes one character at a time and reports
the first octet sequence that is none, with the reason: an octet that cannot start a character, one that
cannot continue it, or the end of the data.
-/
namespace SequenceClassification.Text

def utf8Char (c : Char) : List Nat :=
  let n := c.toNat
  if n < 0x80 then [n]
  else if n < 0x800 then [0xC0 + n / 64, 0x80 + n % 64]
  else if n < 0x10000 then [0xE0 + n / 4096, 0x80 + n / 64 % 64, 0x80 + n % 64]
  else [0xF0 + n / 262144, 0x80 + n / 4096 % 64, 0x80 + n / 64 % 64, 0x80 + n % 64]

def utf8 (s : List Char) : List Nat := s.flatMap utf8Char

inductive Utf8Fault where
  | invalidStart
  | invalidContinuation
  | unexpectedEnd
deriving Repr, DecidableEq

/-- Where reading stopped: octet positions from `first` to `last`, and their first octet. -/
structure Utf8Error where
  first : Nat
  last : Nat
  octet : Nat
  fault : Utf8Fault
deriving Repr, DecidableEq

def Utf8Fault.message : Utf8Fault → String
  | .invalidStart => "invalid start byte"
  | .invalidContinuation => "invalid continuation byte"
  | .unexpectedEnd => "unexpected end of data"

/-- An error names the octet if there is one, and the range of positions otherwise. -/
def Utf8Error.message (e : Utf8Error) : String :=
  if e.first == e.last then
    let hex := Nat.toDigits 16 e.octet
    "'utf-8' codec can't decode byte 0x" ++
      String.ofList (List.replicate (2 - hex.length) '0' ++ hex) ++
      " in position " ++ toString e.first ++ ": " ++ e.fault.message
  else
    "'utf-8' codec can't decode bytes in position " ++ toString e.first ++ "-" ++
      toString e.last ++ ": " ++ e.fault.message

def isContinuation (b : Nat) : Bool := 0x80 ≤ b && b < 0xC0

/-- The octets that may follow the first one of a longer character, and how many follow in all. -/
def secondOctet (b : Nat) : Option (Nat × Nat × Nat) :=
  if 0xC2 ≤ b && b ≤ 0xDF then some (1, 0x80, 0xBF)
  else if b == 0xE0 then some (2, 0xA0, 0xBF)
  else if b == 0xED then some (2, 0x80, 0x9F)
  else if 0xE1 ≤ b && b ≤ 0xEF then some (2, 0x80, 0xBF)
  else if b == 0xF0 then some (3, 0x90, 0xBF)
  else if 0xF1 ≤ b && b ≤ 0xF3 then some (3, 0x80, 0xBF)
  else if b == 0xF4 then some (3, 0x80, 0x8F)
  else none

def leadBits (more b : Nat) : Nat :=
  if more == 1 then b % 32 else if more == 2 then b % 16 else b % 8

/-- Reads `more` octets after the ones worth `value`; `good` counts the octets of the character so far. -/
def continueChar (value good : Nat) : Nat → List Nat → Except (Nat × Utf8Fault) (Nat × List Nat)
  | 0, s => .ok (value, s)
  | _ + 1, [] => .error (good, .unexpectedEnd)
  | more + 1, b :: s =>
    if isContinuation b then continueChar (value * 64 + b % 64) (good + 1) more s
    else .error (good, .invalidContinuation)

def decodeChar (b : Nat) (s : List Nat) : Except (Nat × Utf8Fault) (Nat × List Nat) :=
  if b < 0x80 then .ok (b, s)
  else match secondOctet b with
    | none => .error (1, .invalidStart)
    | some (more, lo, hi) =>
      match s with
      | [] => .error (1, .unexpectedEnd)
      | c :: rest =>
        if lo ≤ c && c ≤ hi then continueChar (leadBits more b * 64 + c % 64) 2 (more - 1) rest
        else .error (1, .invalidContinuation)

/-- Reads octets from position `pos` on; `fuel` is at least their number. -/
def decodeUtf8From (fuel pos : Nat) (done : List Char) (s : List Nat) :
    Except Utf8Error (List Char) :=
  match fuel, s with
  | _, [] => .ok done.reverse
  | 0, _ :: _ => .ok done.reverse
  | fuel + 1, b :: s =>
    match decodeChar b s with
    | .ok (n, rest) =>
      decodeUtf8From fuel (pos + (s.length + 1 - rest.length)) (Char.ofNat n :: done) rest
    | .error (blamed, fault) => .error ⟨pos, pos + blamed - 1, b, fault⟩

def decodeUtf8 (s : List Nat) : Except Utf8Error (List Char) := decodeUtf8From s.length 0 [] s

/-- Line ends as read from a text file: a carriage return, with a line feed after it or not, becomes one
line feed. -/
def unifyLineEnds : List Char → List Char
  | [] => []
  | '\r' :: '\n' :: s => '\n' :: unifyLineEnds s
  | '\r' :: s => '\n' :: unifyLineEnds s
  | c :: s => c :: unifyLineEnds s

/-- No carriage return is left once line ends are unified. -/
theorem not_mem_unifyLineEnds (s : List Char) : '\r' ∉ unifyLineEnds s := by
  fun_induction unifyLineEnds s with
  | case1 => simp
  | case2 s ih => simp [ih]
  | case3 s _ ih => simp [ih]
  | case4 c s _ hc ih =>
    simp only [List.mem_cons, not_or]
    exact ⟨fun h => hc h.symm, ih⟩

end SequenceClassification.Text
