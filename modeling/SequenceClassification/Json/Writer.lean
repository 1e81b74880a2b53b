import SequenceClassification.Json.Value
import SequenceClassification.Decimal.Shortest
import SequenceClassification.Text.Quoted

/-!
Writing values, in two forms: as JSON text without blanks, and as they are shown in messages.
-/
namespace SequenceClassification.Json

/-- One character of a JSON string. Characters beyond ASCII stand for themselves. -/
def writeChar (c : Char) : List Char :=
  if c == '"' then ['\\', '"']
  else if c == '\\' then ['\\', '\\']
  else if c == '\n' then ['\\', 'n']
  else if c == '\r' then ['\\', 'r']
  else if c == '\t' then ['\\', 't']
  else if c.toNat < 0x20 then '\\' :: 'u' :: Text.hexPadded 4 c.toNat
  else if isSurrogate c then '\\' :: 'u' :: Text.hexPadded 4 (c.toNat - surrogateShift)
  else [c]

def writeString (s : String) : String := String.ofList ('"' :: (s.toList.flatMap writeChar ++ ['"']))

/-- A JSON numeral of a floating-point value; values that are not finite have names. -/
def writeFloat (x : Float) : String :=
  if x.isNaN then "NaN"
  else if x.isInf then (if Decimal.isNegative x then "-Infinity" else "Infinity")
  else Decimal.shortest x

mutual

def write : Json → String
  | .null => "null"
  | .bool b => if b then "true" else "false"
  | .int n => toString n
  | .float x => writeFloat x
  | .str s => writeString s
  | .arr items => "[" ++ ",".intercalate (writeItems items) ++ "]"
  | .obj fields => "\x7b" ++ ",".intercalate (writeFields fields) ++ "\x7d"

def writeItems : List Json → List String
  | [] => []
  | v :: rest => write v :: writeItems rest

def writeFields : List (String × Json) → List String
  | [] => []
  | (name, v) :: rest => (writeString name ++ ":" ++ write v) :: writeFields rest

end

mutual

/-- A value as messages show it: texts in single quotes, capitalised names, blanks after separators. -/
def display : Json → String
  | .null => "None"
  | .bool b => if b then "True" else "False"
  | .int n => toString n
  | .float x => Decimal.shortest x
  | .str s => Text.quoted s
  | .arr items => Text.bracketed (displayItems items)
  | .obj fields => "\x7b" ++ ", ".intercalate (displayFields fields) ++ "\x7d"

def displayItems : List Json → List String
  | [] => []
  | v :: rest => display v :: displayItems rest

def displayFields : List (String × Json) → List String
  | [] => []
  | (name, v) :: rest => (Text.quoted name ++ ": " ++ display v) :: displayFields rest

end

def inText : Json → String
  | .str s => s
  | v => display v

/-- Of a list every item is written. -/
theorem length_writeItems (items : List Json) : (writeItems items).length = items.length := by
  induction items with
  | nil => rfl
  | cons v rest ih => simp [writeItems, ih]

end SequenceClassification.Json
