import SequenceClassification.Label
import SequenceClassification.Score.Arithmetic

/-!
Decoding of logits. A row of logits belongs to a text, a column to a class. Single-label decoding takes
the best class of each row by its probability; multi-label decoding takes every class whose logit reaches
the cutoff. Both are written for any arithmetic of scores.
-/
namespace SequenceClassification.Decoding

open Score

variable {α σ : Type}

inductive Fault where
  | noClasses (dimension : Nat)
  | noLabel (id : Int)
  | moreRowsThanTexts
deriving Repr, DecidableEq

def Fault.failure : Fault → Failure
  | .noClasses dimension => .outOfRange ("argmax(): Expected reduction dim " ++ toString dimension ++
      " to have non-zero size.")
  | .noLabel id => noLabelFailure id
  | .moreRowsThanTexts => .outOfRange "list index out of range"

/-- The place and value of the first best entry, `exceeds a b` saying that `a` is strictly better. -/
def best? (exceeds : σ → σ → Bool) : List σ → Option (Nat × σ)
  | [] => none
  | x :: rest =>
    match best? exceeds rest with
    | none => some (0, x)
    | some (i, y) => if exceeds y x then some (i + 1, y) else some (0, x)

def labelOf (table : LabelTable) (sentence class_ : Nat) (score : σ) : Except Fault (Label σ) :=
  match Entries.get? (class_ : Int) table with
  | some text => .ok ⟨text, score, class_, sentence⟩
  | none => .error (.noLabel class_)

/-- One label for each row of probabilities, the rows being numbered from `sentence`. -/
def singleFrom (exceeds : σ → σ → Bool) (table : LabelTable) (sentence : Nat) :
    List (List σ) → Except Fault (List (Label σ))
  | [] => .ok []
  | row :: rest =>
    match best? exceeds row with
    | none => .error (.noClasses 1)
    | some (class_, score) =>
      match labelOf table sentence class_ score with
      | .error e => .error e
      | .ok label =>
        match singleFrom exceeds table (sentence + 1) rest with
        | .error e => .error e
        | .ok labels => .ok (label :: labels)

def single (softmax : List α → List σ) (exceeds : σ → σ → Bool) (table : LabelTable)
    (rows : List (List α)) : Except Fault (List (Label σ)) :=
  if rows.isEmpty then .error (.noClasses 0)
  else if rows.any List.isEmpty then .error (.noClasses 1)
  else singleFrom exceeds table 0 (rows.map softmax)

structure Cell (α : Type) where
  sentence : Nat
  class_ : Nat
  logit : α

def reachingCells (A : Arithmetic α) (cutoff : α) (rows : List (List α)) : List (Cell α) :=
  rows.zipIdx.flatMap fun (row, sentence) =>
    (row.zipIdx.filter fun p => A.atMost cutoff p.1).map fun (x, class_) => ⟨sentence, class_, x⟩

/-- Appends the label of a cell to those of its text. A row without a text may not have any. -/
def appendLabel (A : Arithmetic α) (table : LabelTable) (lists : List (List (Label α))) (c : Cell α) :
    Except Fault (List (List (Label α))) :=
  match lists[c.sentence]? with
  | none => .error .moreRowsThanTexts
  | some labels =>
    (labelOf table c.sentence c.class_ (A.sigmoid c.logit)).map fun l =>
      lists.set c.sentence (labels ++ [l])

/-- Multi-label decoding: for each text every class whose logit reaches the cutoff, by class id. -/
def multi (A : Arithmetic α) (table : LabelTable) (cutoff : α) (texts : Nat) (rows : List (List α)) :
    Except Fault (List (List (Label α))) :=
  (reachingCells A cutoff rows).foldlM (appendLabel A table) (List.replicate texts [])

/-- A row has a best entry exactly when it is not empty. -/
theorem best?_eq_none_iff (exceeds : σ → σ → Bool) (row : List σ) :
    best? exceeds row = none ↔ row = [] := by
  cases row with
  | nil => simp [best?]
  | cons x rest =>
    simp only [best?]
    cases best? exceeds rest with
    | none => simp
    | some p => obtain ⟨i, y⟩ := p; by_cases h : exceeds y x <;> simp [h]

/-- The best entry stands at its place. -/
theorem getElem?_best? {exceeds : σ → σ → Bool} {row : List σ} {i : Nat} {x : σ}
    (h : best? exceeds row = some (i, x)) : row[i]? = some x := by
  induction row generalizing i x with
  | nil => simp [best?] at h
  | cons a rest ih =>
    simp only [best?] at h
    split at h
    · cases h; rfl
    · rename_i j y hj
      split at h
      · cases h; simpa using ih hj
      · cases h; rfl

end SequenceClassification.Decoding
