import SequenceClassification.Json.Value
import SequenceClassification.Decimal.Binary

/-!
Equality and order of values as numbers: truth values count as zero and one, and a whole number equals
the floating-point value that is exactly that number.
-/
namespace SequenceClassification.Json

def wholeNumber? : Json → Option Int
  | .int n => some n
  | .bool b => some (if b then 1 else 0)
  | .float x =>
    if x.isNaN || x.isInf then none
    else if Decimal.isWhole x then some (Decimal.truncate x) else none
  | _ => none

mutual

/-- Whether two values are equal, numbers of different kinds being compared by their value. -/
def same : Json → Json → Bool
  | .null, .null => true
  | .str a, .str b => a == b
  | .arr a, .arr b => sameItems a b
  | .obj a, .obj b => a.length == b.length && sameFields a b
  | .float a, .float b => a == b
  | a, b =>
    match wholeNumber? a, wholeNumber? b with
    | some m, some n => m == n
    | _, _ => false

def sameItems : List Json → List Json → Bool
  | [], [] => true
  | a :: as, b :: bs => same a b && sameItems as bs
  | _, _ => false

/-- Whether every member of the first list has an equal one in the second. -/
def sameFields : List (String × Json) → List (String × Json) → Bool
  | [], _ => true
  | (name, v) :: rest, other => sameMember v (Entries.get? name other) && sameFields rest other

def sameMember : Json → Option Json → Bool
  | _, none => false
  | v, some w => same v w

end

end SequenceClassification.Json
