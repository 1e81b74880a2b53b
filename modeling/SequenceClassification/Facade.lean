import SequenceClassification.Decoding
import SequenceClassification.Score.Real32

/-!
The classifier as its callers see it: a label table and a forward pass from texts to rows of logits, one
row for each text, one column for each class.
-/
namespace SequenceClassification

abbrev Logits := List (List Float32)

structure Facade (τ : Type) where
  labels : LabelTable
  forward : List τ → Except Failure Logits

namespace Facade

variable {τ : Type}

def decodeSingle (table : LabelTable) (logits : Logits) : Except Failure (List (Label Float)) :=
  match Decoding.single Score.softmax32 Score.exceeds32 table logits with
  | .error e => .error e.failure
  | .ok labels => .ok (labels.map fun l => ⟨l.text, Score.widen l.score, l.id, l.sentence⟩)

def decodeMulti (table : LabelTable) (texts : Nat) (threshold : Json) (logits : Logits) :
    Except Failure (List (List (Label Float))) :=
  match Score.suppliedCutoff threshold with
  | .error e => .error e
  | .ok cutoff =>
    (Decoding.multi Score.real64 table cutoff texts (logits.map fun row => row.map Score.widen)).mapError
      Decoding.Fault.failure

def predict (m : Facade τ) (texts : List τ) : Except Failure (List (Label Float)) :=
  if texts.isEmpty then .ok []
  else match m.forward texts with
    | .error e => .error e
    | .ok logits => decodeSingle m.labels logits

def predictMulti (m : Facade τ) (texts : List τ) (threshold : Json) :
    Except Failure (List (List (Label Float))) :=
  if texts.isEmpty then .ok []
  else match m.forward texts with
    | .error e => .error e
    | .ok logits => decodeMulti m.labels texts.length threshold logits

end Facade

end SequenceClassification
