import SequenceClassification.Json.Value

/-!
What a weights file stores: tensors, plain values, and tables that name other stored values.
-/
namespace SequenceClassification.Weights

def elements (shape : List Nat) : Nat := shape.foldl (fun n d => n * d) 1

/-- A tensor of a file: its shape and its elements, the last coordinate running fastest. -/
structure Tensor where
  shape : List Nat
  values : List Float
deriving Inhabited

/-- A stored value. Of values of other sorts nothing is looked at but the sort and whether they count as present. -/
inductive Stored where
  | plain (v : Json)
  | tensor (t : Tensor)
  | table (entries : List (String × Stored))
  | other (kind qualifiedKind : String) (isPresent : Bool)
deriving Inhabited

namespace Stored

/-- The entries of a table; a plain object is a table of plain values. -/
def entries? : Stored → Option (Entries String Stored)
  | .table es => some es
  | .plain (.obj fields) => some (fields.map fun (name, v) => (name, .plain v))
  | _ => none

def kindName : Stored → String
  | .plain v => v.kindName
  | .tensor _ => "Tensor"
  | .table _ => "dict"
  | .other kind _ _ => kind

def qualifiedKind : Stored → String
  | .tensor _ => "torch.Tensor"
  | .other _ qualifiedKind _ => qualifiedKind
  | v => v.kindName

/-- A table has entries. -/
theorem entries?_table (es : List (String × Stored)) : (Stored.table es).entries? = some es := rfl

end Stored

end SequenceClassification.Weights
