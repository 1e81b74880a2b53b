import SequenceClassification.Entries

/-!
The values of JSON text. Whole numbers and numbers with a fraction or exponent are kept apart, and the
members of an object keep their order. Strings consist of characters; for half of a surrogate pair, which is
none, a character for private use stands.
-/
namespace SequenceClassification

inductive Json where
  | null
  | bool (b : Bool)
  | int (n : Int)
  | float (x : Float)
  | str (s : String)
  | arr (items : List Json)
  | obj (fields : List (String × Json))
deriving Inhabited, BEq

namespace Json

def surrogateShift : Nat := 0xF0000

/-- The character that stands for an unpaired surrogate. -/
def surrogate (n : Nat) : Char := Char.ofNat (surrogateShift + n)

def isSurrogate (c : Char) : Bool :=
  surrogateShift + 0xD800 ≤ c.toNat && c.toNat < surrogateShift + 0xE000

def field? (name : String) : Json → Option Json
  | .obj fields => Entries.get? name fields
  | _ => none

def str? : Json → Option String
  | .str s => some s
  | _ => none

def int? : Json → Option Int
  | .int n => some n
  | _ => none

def arr? : Json → Option (List Json)
  | .arr items => some items
  | _ => none

def obj? : Json → Option (List (String × Json))
  | .obj fields => some fields
  | _ => none

def kindName : Json → String
  | .null => "NoneType"
  | .bool _ => "bool"
  | .int _ => "int"
  | .float _ => "float"
  | .str _ => "str"
  | .arr _ => "list"
  | .obj _ => "dict"

/-- Whether a value counts as present in a test: null, false, zero and what is empty do not. -/
def truthy : Json → Bool
  | .null => false
  | .bool b => b
  | .int n => n != 0
  | .float x => x != 0
  | .str s => !s.isEmpty
  | .arr items => !items.isEmpty
  | .obj fields => !fields.isEmpty

end Json

end SequenceClassification
