import SequenceClassification.Evaluation.Metrics
import SequenceClassification.Label

/-!
Confusions: how often a class was taken for another one. Only classes of the label table are counted; the
most frequent confusions come first, and equally frequent ones by the gold id, then the predicted id.
-/
namespace SequenceClassification.Evaluation

structure Confusion where
  count : Nat
  gold : Int
  predicted : Int
deriving Repr, DecidableEq

def confusionsOf (ids : List Int) (outcomes : Outcomes) : List Confusion :=
  ids.flatMap fun gold => ids.filterMap fun predicted =>
    let n := outcomes.countP fun p => p.1 == gold && p.2 == predicted
    if gold != predicted && 0 < n then some ⟨n, gold, predicted⟩ else none

/-- The most frequent confusions first; the order of equally frequent ones is kept. -/
def byFrequency (confusions : List Confusion) : List Confusion :=
  confusions.mergeSort fun a b => decide (b.count ≤ a.count)

/-- The entries before a position; a negative position counts from the end, and none means all. -/
def upTo {α : Type} (stop : Option Int) (xs : List α) : List α :=
  match stop with
  | none => xs
  | some n => if n < 0 then xs.take (xs.length - n.natAbs) else xs.take n.toNat

def defaultTop : Int := 10

def topConfusions (table : LabelTable) (gold predicted : List Int) (top : Option Int) :
    Except Failure (List (Nat × Json × Json)) := do
  let outcomes ← pairUp gold predicted
  let ids := LabelTable.sortedIds table
  if ids.isEmpty then
    throw (.invalidValue "'labels' should contains at least one label.")
  if !outcomes.isEmpty && !outcomes.any (fun p => ids.contains p.1) then
    throw (.invalidValue "At least one label specified must be in y_true")
  let entries ← (byFrequency (confusionsOf ids outcomes)).mapM fun c => do
    let t ← LabelTable.textOf table c.gold
    let p ← LabelTable.textOf table c.predicted
    pure (c.count, t, p)
  pure (upTo top entries)

/-- Sorting by frequency loses no confusion. -/
theorem byFrequency_perm (confusions : List Confusion) :
    List.Perm (byFrequency confusions) confusions :=
  List.mergeSort_perm _ _

/-- Cutting at a position leaves the front of the list. -/
theorem upTo_isPrefix {α : Type} (stop : Option Int) (xs : List α) : ∃ t, upTo stop xs ++ t = xs := by
  unfold upTo
  split
  · exact ⟨[], by simp⟩
  · split
    · exact ⟨_, List.take_append_drop _ _⟩
    · exact ⟨_, List.take_append_drop _ _⟩

end SequenceClassification.Evaluation
