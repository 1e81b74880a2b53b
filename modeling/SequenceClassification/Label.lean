import SequenceClassification.Failure
import SequenceClassification.Json.Equality
import SequenceClassification.Json.Writer

/-!
Labels and label tables. A label says which class a text was given and with what score; a table gives the
text of each class id, in the order in which the ids were written.
-/
namespace SequenceClassification

/-- A label given to a text: the text and id of its class, its score, and the place of the classified
text in the input. -/
structure Label (σ : Type) where
  text : Json
  score : σ
  id : Int
  sentence : Nat := 0
deriving Inhabited

/-- The texts of the class ids, in the order of their first writing. -/
abbrev LabelTable := Entries Int Json

def noLabelFailure (id : Int) : Failure :=
  .own .labelMapping ("No label for class id " ++ toString id)

namespace LabelTable

def textOf (table : LabelTable) (id : Int) : Except Failure Json :=
  match Entries.get? id table with
  | some text => .ok text
  | none => .error (noLabelFailure id)

def sortedIds (table : LabelTable) : List Int :=
  (Entries.keys table).mergeSort fun a b => decide (a ≤ b)

def uncovered (table : LabelTable) (count : Nat) : List Nat :=
  (List.range count).filter fun i => !Entries.has (i : Int) table

/-- A class id has a text exactly when it is among the ids of the table. -/
theorem textOf_isOk_iff (table : LabelTable) (id : Int) :
    (textOf table id).isOk = true ↔ id ∈ Entries.keys table := by
  rw [← Entries.get?_isSome_iff]
  unfold textOf
  cases Entries.get? id table <;> simp [Except.isOk, Except.toBool]

/-- Nothing is uncovered exactly when every id below `count` has a label. -/
theorem uncovered_eq_nil_iff (table : LabelTable) (count : Nat) :
    uncovered table count = [] ↔ ∀ i, i < count → (i : Int) ∈ Entries.keys table := by
  simp only [uncovered, List.filter_eq_nil_iff, List.mem_range, Entries.has, Bool.not_eq_true',
    Bool.not_eq_false, ← Entries.get?_isSome_iff]

end LabelTable

def Label.record {σ : Type} (write : σ → Json) (l : Label σ) : Entries String Json :=
  [("text", l.text), ("score", write l.score), ("id", .int l.id), ("sentence", .int l.sentence)]

def Label.same (a b : Label Json) : Bool :=
  a.text.same b.text && a.score.same b.score && a.id == b.id && a.sentence == b.sentence

/-- Labels are values: no field can be changed. -/
def Label.assign (field : String) : Failure :=
  ⟨.frozenField, "cannot assign to field " ++ Text.quoted field⟩

end SequenceClassification
