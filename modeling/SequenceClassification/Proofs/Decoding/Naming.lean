import SequenceClassification.Facade
import SequenceClassification.Proofs.Decoding.RowByRow
import SequenceClassification.Proofs.Outcome

/-!
What decoding makes of a table that covers its classes. Rows as wide as the classes at most are decoded
into labels of classes, each with the text that the table has for it, and no class is without a label.
Main statements: the same of both ways of classification, for every forward pass that keeps to the width.
-/
namespace SequenceClassification

/-- Every class has a label. -/
def LabelTable.Covers (table : LabelTable) (count : Nat) : Prop :=
  ∀ i : Nat, i < count → (i : Int) ∈ Entries.keys table

structure LabelTable.Names {σ : Type} (table : LabelTable) (count : Nat) (l : Label σ) : Prop where
  nonneg : 0 ≤ l.id
  lt : l.id < count
  text : Entries.get? l.id table = some l.text

def Narrow {α : Type} (count : Nat) (rows : List (List α)) : Prop := ∀ row ∈ rows, row.length ≤ count

theorem Narrow.map {α β : Type} {count : Nat} {rows : List (List α)} (h : Narrow count rows)
    {f : List α → List β} (hf : ∀ row, (f row).length = row.length) : Narrow count (rows.map f) := by
  intro row hrow
  obtain ⟨row', hrow', rfl⟩ := List.mem_map.1 hrow
  rw [hf]
  exact h row' hrow'

namespace Decoding

variable {α σ : Type} {table : LabelTable} {count : Nat}

theorem labelOf_yields (h : table.Covers count) (sentence : Nat) {class_ : Nat}
    (hclass : class_ < count) (score : σ) :
    Yields (labelOf table sentence class_ score) (table.Names count) (·.failure.isOwn = false) := by
  obtain ⟨text, htext⟩ := Option.isSome_iff_exists.1
    ((Entries.get?_isSome_iff _ _).2 (h class_ hclass))
  have hnames : table.Names count (⟨text, score, class_, sentence⟩ : Label σ) :=
    ⟨Int.natCast_nonneg class_, Int.ofNat_lt.2 hclass, htext⟩
  simpa [labelOf, htext, Yields] using hnames

theorem singleFrom_cons {exceeds : σ → σ → Bool} {row : List σ} {i : Nat} {score : σ}
    (h : best? exceeds row = some (i, score)) (sentence : Nat) (rest : List (List σ)) :
    singleFrom exceeds table sentence (row :: rest) =
      (labelOf table sentence i score).bind fun l =>
        (singleFrom exceeds table (sentence + 1) rest).map fun ls => l :: ls := by
  simp only [singleFrom, h]
  cases labelOf table sentence i score with
  | error e => rfl
  | ok l => cases singleFrom exceeds table (sentence + 1) rest <;> rfl

theorem best?_lt {exceeds : σ → σ → Bool} {row : List σ} {i : Nat} {x : σ}
    (h : best? exceeds row = some (i, x)) : i < row.length :=
  (List.getElem?_eq_some_iff.1 (getElem?_best? h)).1

theorem singleFrom_yields (exceeds : σ → σ → Bool) (h : table.Covers count) (sentence : Nat)
    {rows : List (List σ)} (hrows : Narrow count rows) :
    Yields (singleFrom exceeds table sentence rows) (fun ls => ∀ l ∈ ls, table.Names count l)
      (·.failure.isOwn = false) := by
  induction rows generalizing sentence with
  | nil =>
    intro l hl
    cases hl
  | cons row rest ih =>
    cases hbest : best? exceeds row with
    | none =>
      rw [singleFrom, hbest]
      rfl
    | some p =>
      obtain ⟨class_, score⟩ := p
      have hclass : class_ < count :=
        Nat.lt_of_lt_of_le (best?_lt hbest) (hrows row (List.mem_cons_self ..))
      have hfirst := labelOf_yields h sentence hclass score
      have hrest := ih (sentence + 1) fun row' hrow' => hrows row' (List.mem_cons_of_mem _ hrow')
      rw [singleFrom_cons hbest]
      exact hfirst.cons hrest

theorem single_yields {softmax : List α → List σ} (hsoftmax : ∀ row, (softmax row).length = row.length)
    (exceeds : σ → σ → Bool) (h : table.Covers count) {rows : List (List α)} (hrows : Narrow count rows) :
    Yields (single softmax exceeds table rows) (fun ls => ∀ l ∈ ls, table.Names count l)
      (·.failure.isOwn = false) := by
  unfold single
  split
  · rfl
  · split
    · rfl
    · exact singleFrom_yields exceeds h 0 (hrows.map hsoftmax)

section
variable (A : Score.Arithmetic α) (cutoff : α)

theorem selectFrom_yields (h : table.Covers count) (sentence class_ : Nat) {row : List α}
    (hrow : class_ + row.length ≤ count) :
    Yields (selectFrom A table cutoff sentence class_ row) (fun ls => ∀ l ∈ ls, table.Names count l)
      (·.failure.isOwn = false) := by
  induction row generalizing class_ with
  | nil =>
    intro l hl
    cases hl
  | cons x rest ih =>
    rw [List.length_cons] at hrow
    have hrest := ih (class_ + 1) (by omega)
    rw [selectFrom_cons]
    split
    · have hclass : class_ < count := by omega
      exact (labelOf_yields h sentence hclass (A.sigmoid x)).cons hrest
    · exact hrest

theorem multiFrom_yields (h : table.Covers count) (sentence texts : Nat) {rows : List (List α)}
    (hrows : Narrow count rows) :
    Yields (multiFrom A table cutoff sentence texts rows)
      (fun lss => ∀ ls ∈ lss, ∀ l ∈ ls, table.Names count l) (·.failure.isOwn = false) := by
  induction rows generalizing sentence texts with
  | nil =>
    intro ls hls l hl
    rw [List.eq_of_mem_replicate hls] at hl
    cases hl
  | cons row rest ih =>
    have hrest := fun texts => ih (sentence + 1) texts fun row' hrow' =>
      hrows row' (List.mem_cons_of_mem _ hrow')
    cases texts with
    | zero =>
      unfold multiFrom
      split
      · rfl
      · exact hrest 0
    | succ texts =>
      have hfirst := selectFrom_yields A cutoff h sentence 0
        (show 0 + row.length ≤ count by simpa using hrows row (List.mem_cons_self ..))
      rw [multiFrom_cons]
      exact hfirst.cons (hrest texts)

end

end Decoding

theorem Score.length_softmax32 (row : List Float32) : (Score.softmax32 row).length = row.length := by
  simp [Score.softmax32]

namespace Facade

variable {table : LabelTable} {count : Nat}

theorem decodeSingle_yields (h : table.Covers count) {logits : Logits} (hlogits : Narrow count logits) :
    Yields (decodeSingle table logits) (fun ls => ∀ l ∈ ls, table.Names count l) (·.isOwn = false) := by
  have hsingle := Decoding.single_yields Score.length_softmax32 Score.exceeds32 h hlogits
  unfold decodeSingle
  cases hlabels : Decoding.single Score.softmax32 Score.exceeds32 table logits with
  | error e => exact hsingle.of_error hlabels
  | ok labels =>
    intro l hl
    obtain ⟨l', hl', rfl⟩ := List.mem_map.1 hl
    have hnames := hsingle.of_ok hlabels l' hl'
    exact ⟨hnames.nonneg, hnames.lt, hnames.text⟩

theorem suppliedCutoff_yields (threshold : Json) :
    Yields (Score.suppliedCutoff threshold) (fun _ => True) (·.isOwn = false) := by
  unfold Score.suppliedCutoff
  split
  · trivial
  · trivial
  · trivial
  · rfl

theorem decodeMulti_yields (h : table.Covers count) (texts : Nat) (threshold : Json) {logits : Logits}
    (hlogits : Narrow count logits) :
    Yields (decodeMulti table texts threshold logits)
      (fun lss => ∀ ls ∈ lss, ∀ l ∈ ls, table.Names count l) (·.isOwn = false) := by
  have hcutoff := suppliedCutoff_yields threshold
  unfold decodeMulti
  cases hc : Score.suppliedCutoff threshold with
  | error e => exact hcutoff.of_error hc
  | ok cutoff =>
    have hrows : Narrow count (logits.map fun row => row.map Score.widen) :=
      hlogits.map fun row => List.length_map ..
    simp only [Decoding.multi_eq_multiFrom]
    exact (Decoding.multiFrom_yields Score.real64 cutoff h 0 texts hrows).mapError fun _ hf => hf

section
variable {τ : Type} {m : Facade τ} {P : Failure → Prop}

/-- Over a table that covers its classes, classification fails only as the forward pass does or with a
failure that is not the pipeline's own, and every label is that of a class. -/
theorem predict_yields (h : m.labels.Covers count) (hP : ∀ e : Failure, e.isOwn = false → P e)
    (texts : List τ) (hforward : Yields (m.forward texts) (Narrow count) P) :
    Yields (m.predict texts) (fun ls => ∀ l ∈ ls, m.labels.Names count l) P := by
  unfold predict
  split
  · intro l hl
    cases hl
  · cases hlogits : m.forward texts with
    | error e => exact hforward.of_error hlogits
    | ok logits => exact (decodeSingle_yields h (hforward.of_ok hlogits)).mono_right hP

theorem predictMulti_yields (h : m.labels.Covers count) (hP : ∀ e : Failure, e.isOwn = false → P e)
    (texts : List τ) (threshold : Json) (hforward : Yields (m.forward texts) (Narrow count) P) :
    Yields (m.predictMulti texts threshold)
      (fun lss => ∀ ls ∈ lss, ∀ l ∈ ls, m.labels.Names count l) P := by
  unfold predictMulti
  split
  · intro ls hls
    cases hls
  · cases hlogits : m.forward texts with
    | error e => exact hforward.of_error hlogits
    | ok logits =>
      exact (decodeMulti_yields h _ threshold (hforward.of_ok hlogits)).mono_right hP

end

end Facade

end SequenceClassification
