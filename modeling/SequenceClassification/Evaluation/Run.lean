import SequenceClassification.Facade
import SequenceClassification.Evaluation.GoldLabel
import SequenceClassification.Evaluation.Metrics
import SequenceClassification.Slices

/-!
Evaluation runs. The texts are handed to the model in consecutive batches; a run records the batches that
reached the model and the predicted ids.
-/
namespace SequenceClassification.Evaluation

variable {τ : Type}

def defaultBatchSize : Int := 32

/-- The batches of a given size. A size of zero is refused, and a negative size gives no batch. -/
def batches (size : Int) (texts : List τ) : Except Failure (List (List τ)) :=
  if size == 0 then .error (.invalidValue "range() arg 3 must not be zero")
  else if size < 0 then .ok []
  else .ok (slicesOf (size.toNat - 1) texts)

/-- What a run leaves: the batches that reached the model, and the outcome. Texts are strings unless
another type is named. -/
structure Run (ρ : Type) (τ : Type := String) where
  handed : List (List τ)
  outcome : Except Failure ρ

def Run.batches {ρ : Type} (run : Run ρ τ) : List Nat := run.handed.map List.length

def predictBatches (m : Facade τ) : List (List τ) → Run (List Int) τ
  | [] => ⟨[], .ok []⟩
  | batch :: rest =>
    match m.predict batch with
    | .error e => ⟨[batch], .error e⟩
    | .ok labels =>
      let run := predictBatches m rest
      ⟨batch :: run.handed, run.outcome.map (labels.map Label.id ++ ·)⟩

def predictIds (m : Facade τ) (texts : List τ) (size : Int) : Run (List Int) τ :=
  match batches size texts with
  | .error e => ⟨[], .error e⟩
  | .ok bs => predictBatches m bs

def evaluate (m : Facade τ) (texts : List τ) (gold : List Json) (size : Int) : Run (Metrics Float) τ :=
  match goldIds m.labels gold with
  | .error e => ⟨[], .error e.failure⟩
  | .ok ids =>
    let run := predictIds m texts size
    ⟨run.handed, run.outcome.bind fun predicted =>
      computeMetrics ids predicted (some (LabelTable.sortedIds m.labels))⟩

end SequenceClassification.Evaluation
