import SequenceClassification.Proofs.Decoding.Naming
import SequenceClassification.Proofs.Score.Widening

/-!
The selected classes. Multi-label decoding goes through the rows, and through each row by class; a cell is
selected if its logit reaches the cutoff, and then its class must have a label. Main statement: where every
selected class has a label, each text is given exactly the labels of the selected cells of its row, by
class; otherwise the first selected cell without a label decides the failure.
-/
namespace SequenceClassification

/-- Of items in increasing order, those before one of them are the smaller ones. -/
theorem mem_before_of_lt {α : Type} {key : α → Nat} {before after : List α} {x y : α}
    (hsorted : (before ++ x :: after).Pairwise fun a b => key a < key b)
    (hy : y ∈ before ++ x :: after) (hlt : key y < key x) : y ∈ before := by
  rcases List.mem_append.1 hy with hy | hy
  · exact hy
  · have hafter := (List.pairwise_cons.1 (List.pairwise_append.1 hsorted).2.1).1
    rcases List.mem_cons.1 hy with rfl | hy
    · omega
    · have := hafter y hy
      omega

theorem pairwise_zipIdx {α : Type} (xs : List α) (start : Nat) :
    (xs.zipIdx start).Pairwise fun p q => p.2 < q.2 := by
  rw [← List.pairwise_map (f := Prod.snd) (R := (· < ·)), List.zipIdx_map_snd]
  exact List.pairwise_lt_range'

namespace Decoding

variable {α : Type} {A : Score.Arithmetic α} {table : LabelTable} {cutoff : α}

theorem labelOf_of_get? {sentence class_ : Nat} {text : Json}
    (h : Entries.get? (class_ : Int) table = some text) (score : α) :
    labelOf table sentence class_ score = .ok ⟨text, score, class_, sentence⟩ := by
  simp only [labelOf, h]

theorem labelOf_of_not_mem {sentence class_ : Nat} (h : (class_ : Int) ∉ Entries.keys table)
    (score : α) : labelOf table sentence class_ score = .error (.noLabel class_) := by
  have hnone : Entries.get? (class_ : Int) table = none := by
    rw [← Option.not_isSome_iff_eq_none, Entries.get?_isSome_iff]
    exact h
  simp only [labelOf, hnone]

theorem exists_labelOf_iff {sentence class_ : Nat} {score : α} :
    (∃ l, labelOf table sentence class_ score = .ok l) ↔ (class_ : Int) ∈ Entries.keys table := by
  constructor
  · rintro ⟨l, hl⟩
    by_contra h
    rw [labelOf_of_not_mem h] at hl
    cases hl
  · intro h
    obtain ⟨text, htext⟩ := Option.isSome_iff_exists.1 ((Entries.get?_isSome_iff _ _).2 h)
    exact ⟨_, labelOf_of_get? htext score⟩

/-- The cells of a row that reach the cutoff, each with its class. -/
def reaching (A : Score.Arithmetic α) (cutoff : α) (row : List α) : List (α × Nat) :=
  row.zipIdx.filter fun p => A.atMost cutoff p.1

theorem mem_reaching_iff {row : List α} {x : α} {class_ : Nat} :
    (x, class_) ∈ reaching A cutoff row ↔ row[class_]? = some x ∧ A.atMost cutoff x = true := by
  rw [reaching, List.mem_filter, List.mk_mem_zipIdx_iff_getElem?]

theorem pairwise_reaching (row : List α) :
    (reaching A cutoff row).Pairwise fun p q => p.2 < q.2 :=
  (pairwise_zipIdx row 0).filter _

/-- Selecting from a row gives each cell that reaches the cutoff its label. -/
theorem selectFrom_eq_mapM (sentence : Nat) (row : List α) :
    selectFrom A table cutoff sentence 0 row =
      (reaching A cutoff row).mapM fun p => labelOf table sentence p.2 (A.sigmoid p.1) := by
  have hfrom : ∀ (row : List α) (class_ : Nat), selectFrom A table cutoff sentence class_ row =
      ((row.zipIdx class_).filter fun p => A.atMost cutoff p.1).mapM
        fun p => labelOf table sentence p.2 (A.sigmoid p.1) := by
    intro row
    induction row with
    | nil => exact fun _ => rfl
    | cons x rest ih =>
      intro class_
      rw [selectFrom_cons, List.zipIdx_cons, List.filter_cons, ih (class_ + 1)]
      split
      · rw [mapM_cons_eq]
      · rfl
  exact hfrom row 0

/-- Decoding as many rows as texts selects from each row by itself. -/
theorem multiFrom_eq_mapM (sentence : Nat) (rows : List (List α)) :
    multiFrom A table cutoff sentence rows.length rows =
      (rows.zipIdx sentence).mapM fun p => selectFrom A table cutoff p.2 0 p.1 := by
  induction rows generalizing sentence with
  | nil => rfl
  | cons row rest ih =>
    rw [List.length_cons, multiFrom_cons, List.zipIdx_cons, mapM_cons_eq, ih (sentence + 1)]

/-- The labels of a row: one for each cell that reaches the cutoff and for no other, by class, with the
text of the table, the sigmoid of the logit, and the place of the row. -/
structure Selects (A : Score.Arithmetic α) (table : LabelTable) (cutoff : α) (sentence : Nat)
    (row : List α) (labels : List (Label α)) : Prop where
  increasing : (labels.map Label.id).Pairwise (· < ·)
  mem_iff : ∀ l, l ∈ labels ↔ ∃ (class_ : Nat) (x : α), row[class_]? = some x ∧
    A.atMost cutoff x = true ∧ Entries.get? (class_ : Int) table = some l.text ∧
    l.score = A.sigmoid x ∧ l.id = class_ ∧ l.sentence = sentence

theorem selects_of_selectFrom {sentence : Nat} {row : List α} {labels : List (Label α)}
    (h : selectFrom A table cutoff sentence 0 row = .ok labels) :
    Selects A table cutoff sentence row labels := by
  rw [selectFrom_eq_mapM] at h
  have hlabel : ∀ {p : α × Nat} {l : Label α}, labelOf table sentence p.2 (A.sigmoid p.1) = .ok l ↔
      Entries.get? (p.2 : Int) table = some l.text ∧ l.score = A.sigmoid p.1 ∧ l.id = p.2 ∧
        l.sentence = sentence := by
    intro p l
    cases hp : Entries.get? (p.2 : Int) table with
    | none => simp [labelOf, hp]
    | some text =>
      obtain ⟨text', score, id, place⟩ := l
      simp only [labelOf, hp, Except.ok.injEq, Label.mk.injEq, Option.some.injEq]
      constructor
      · rintro ⟨htext, hscore, hid, hplace⟩
        exact ⟨htext, hscore.symm, hid.symm, hplace.symm⟩
      · rintro ⟨htext, hscore, hid, hplace⟩
        exact ⟨htext, hscore.symm, hid.symm, hplace.symm⟩
  constructor
  · rw [map_of_mapM_eq_ok h fun p l hl => (hlabel.1 hl).2.2.1, List.pairwise_map]
    exact (pairwise_reaching row).imp fun hlt => Int.ofNat_lt.2 hlt
  · intro l
    rw [mem_of_mapM_eq_ok h]
    constructor
    · rintro ⟨p, hp, hl⟩
      obtain ⟨hx, hreach⟩ := mem_reaching_iff.1 hp
      exact ⟨p.2, p.1, hx, hreach, hlabel.1 hl⟩
    · rintro ⟨class_, x, hx, hreach, hl⟩
      exact ⟨(x, class_), mem_reaching_iff.2 ⟨hx, hreach⟩, hlabel.2 hl⟩

theorem exists_selectFrom_iff {sentence : Nat} {row : List α} :
    (∃ labels, selectFrom A table cutoff sentence 0 row = .ok labels) ↔
      ∀ (k : Nat) (x : α), row[k]? = some x → A.atMost cutoff x = true →
        (k : Int) ∈ Entries.keys table := by
  rw [selectFrom_eq_mapM, exists_mapM_eq_ok_iff]
  constructor
  · intro h k x hx hreach
    exact exists_labelOf_iff.1 (h (x, k) (mem_reaching_iff.2 ⟨hx, hreach⟩))
  · intro h p hp
    obtain ⟨hx, hreach⟩ := mem_reaching_iff.1 hp
    exact exists_labelOf_iff.2 (h p.2 p.1 hx hreach)

/-- A row fails with its first selected class that has no label. -/
theorem exists_of_selectFrom_error {sentence : Nat} {row : List α} {e : Fault}
    (h : selectFrom A table cutoff sentence 0 row = .error e) :
    ∃ (k : Nat) (x : α), row[k]? = some x ∧ A.atMost cutoff x = true ∧
      (k : Int) ∉ Entries.keys table ∧ e = .noLabel k ∧
      ∀ (k' : Nat) (x' : α), row[k']? = some x' → A.atMost cutoff x' = true →
        (k' : Int) ∉ Entries.keys table → k ≤ k' := by
  rw [selectFrom_eq_mapM] at h
  have hsome : ¬ ∀ p ∈ reaching A cutoff row,
      ∃ l, labelOf table sentence p.2 (A.sigmoid p.1) = .ok l := by
    intro hall
    obtain ⟨labels, hlabels⟩ := exists_mapM_eq_ok hall
    rw [hlabels] at h
    cases h
  obtain ⟨before, ⟨x, k⟩, after, e', hsplit, hbefore, hfail⟩ := exists_first_error hsome
  have hk : (k : Int) ∉ Entries.keys table := by
    intro hmem
    obtain ⟨l, hl⟩ := exists_labelOf_iff.2 hmem
    rw [hl] at hfail
    cases hfail
  obtain ⟨hx, hreach⟩ := mem_reaching_iff.1 (hsplit ▸ List.mem_append_right before List.mem_cons_self)
  refine ⟨k, x, hx, hreach, hk, ?_, fun k' x' hx' hreach' hk' => ?_⟩
  · rw [hsplit, mapM_of_first_error hbefore hfail] at h
    rw [labelOf_of_not_mem hk] at hfail
    exact (Except.error.inj h).symm.trans (Except.error.inj hfail).symm
  · -- a smaller class without a label would stand before the failing one, where all have labels
    by_contra hlt
    have hmem := mem_reaching_iff.2 ⟨hx', hreach'⟩
    have hsorted : (reaching A cutoff row).Pairwise fun p q => p.2 < q.2 := pairwise_reaching row
    rw [hsplit] at hmem hsorted
    have hearlier := mem_before_of_lt hsorted hmem (show k' < k by omega)
    exact hk' (exists_labelOf_iff.1 (hbefore _ hearlier))

/-- The cell of a row and a class reaches the cutoff. -/
def Reached (A : Score.Arithmetic α) (cutoff : α) (rows : List (List α)) (i k : Nat) : Prop :=
  ∃ row x, rows[i]? = some row ∧ row[k]? = some x ∧ A.atMost cutoff x = true

section
variable {rows : List (List α)}

theorem forall_selectFrom_iff :
    (∀ p ∈ rows.zipIdx, ∃ labels, selectFrom A table cutoff p.2 0 p.1 = .ok labels) ↔
      ∀ i k, Reached A cutoff rows i k → (k : Int) ∈ Entries.keys table := by
  constructor
  · rintro h i k ⟨row, x, hrow, hx, hreach⟩
    exact exists_selectFrom_iff.1 (h (row, i) (List.mk_mem_zipIdx_iff_getElem?.2 hrow)) k x hx hreach
  · rintro h ⟨row, i⟩ hp
    have hrow := List.mk_mem_zipIdx_iff_getElem?.1 hp
    exact exists_selectFrom_iff.2 fun k x hx hreach => h i k ⟨row, x, hrow, hx, hreach⟩

/-- If multi-label decoding succeeds, each row is given its labels. -/
theorem selects_of_multi {lists : List (List (Label α))}
    (h : multi A table cutoff rows.length rows = .ok lists) : lists.length = rows.length ∧
      ∀ i labels, lists[i]? = some labels →
        ∃ row, rows[i]? = some row ∧ Selects A table cutoff i row labels := by
  rw [multi_eq_multiFrom] at h
  refine ⟨length_multiFrom h, fun i labels hi => ?_⟩
  rw [multiFrom_eq_mapM] at h
  obtain ⟨row, hrow, hselect⟩ := getElem?_of_mapM_zipIdx h hi
  exact ⟨row, hrow, selects_of_selectFrom hselect⟩

/-- Where every selected class has a label, each row is given its labels. -/
theorem multi_of_labelled
    (h : ∀ i k, Reached A cutoff rows i k → (k : Int) ∈ Entries.keys table) :
    ∃ lists, multi A table cutoff rows.length rows = .ok lists ∧ lists.length = rows.length ∧
      ∀ i labels, lists[i]? = some labels →
        ∃ row, rows[i]? = some row ∧ Selects A table cutoff i row labels := by
  obtain ⟨lists, hlists⟩ := exists_mapM_eq_ok (forall_selectFrom_iff.2 h)
  have hmulti : multi A table cutoff rows.length rows = .ok lists :=
    ((multi_eq_multiFrom ..).trans (multiFrom_eq_mapM 0 rows)).trans hlists
  exact ⟨lists, hmulti, selects_of_multi hmulti⟩

/-- Otherwise the first selected class without a label decides, row by row and by class. -/
theorem multi_of_unlabelled
    (h : ¬ ∀ i k, Reached A cutoff rows i k → (k : Int) ∈ Entries.keys table) :
    ∃ i k, Reached A cutoff rows i k ∧ (k : Int) ∉ Entries.keys table ∧
      (∀ i' k', Reached A cutoff rows i' k' → (k' : Int) ∉ Entries.keys table →
        i < i' ∨ i = i' ∧ k ≤ k') ∧
      multi A table cutoff rows.length rows = .error (.noLabel k) := by
  rw [← forall_selectFrom_iff] at h
  obtain ⟨before, ⟨row, i⟩, after, e, hsplit, hbefore, hfail⟩ := exists_first_error h
  have hmulti : multi A table cutoff rows.length rows = .error e := by
    rw [multi_eq_multiFrom, multiFrom_eq_mapM, hsplit]
    exact mapM_of_first_error hbefore hfail
  have hrow : rows[i]? = some row :=
    List.mk_mem_zipIdx_iff_getElem?.1 (hsplit ▸ List.mem_append_right before List.mem_cons_self)
  obtain ⟨k, x, hx, hreach, hk, rfl, hfirst⟩ := exists_of_selectFrom_error hfail
  refine ⟨i, k, ⟨row, x, hrow, hx, hreach⟩, hk, ?_, hmulti⟩
  rintro i' k' ⟨row', x', hrow', hx', hreach'⟩ hk'
  rcases Nat.lt_trichotomy i' i with hlt | rfl | hgt
  · have hmem := List.mk_mem_zipIdx_iff_getElem?.2 hrow'
    have hsorted := pairwise_zipIdx rows 0
    rw [hsplit] at hmem hsorted
    have hearlier := mem_before_of_lt hsorted hmem hlt
    exact absurd (exists_selectFrom_iff.1 (hbefore _ hearlier) k' x' hx' hreach') hk'
  · rw [hrow] at hrow'
    cases hrow'
    exact .inr ⟨rfl, hfirst k' x' hx' hreach' hk'⟩
  · exact .inl hgt

end

end Decoding

namespace Facade

variable {τ : Type} {m : Facade τ}

def Selected (logits : Logits) (cutoff : Float) (i k : Nat) : Prop :=
  ∃ row x, logits[i]? = some row ∧ row[k]? = some x ∧ cutoff ≤ Score.widen x

theorem reached_iff {logits : Logits} {cutoff : Float} {i k : Nat} :
    Decoding.Reached Score.real64 cutoff (logits.map fun row => row.map Score.widen) i k ↔
      Selected logits cutoff i k := by
  simp only [Decoding.Reached, Selected, List.getElem?_map, Option.map_eq_some_iff, Score.real64,
    decide_eq_true_eq]
  constructor
  · rintro ⟨_, _, ⟨row, hrow, rfl⟩, hx, hreach⟩
    rw [List.getElem?_map, Option.map_eq_some_iff] at hx
    obtain ⟨x, hx, rfl⟩ := hx
    exact ⟨row, x, hrow, hx, hreach⟩
  · rintro ⟨row, x, hrow, hx, hreach⟩
    refine ⟨_, _, ⟨row, hrow, rfl⟩, ?_, hreach⟩
    rw [List.getElem?_map, hx]
    rfl

theorem predictMulti_of_cutoff {texts : List τ} {logits : Logits}
    (hforward : texts ≠ [] → m.forward texts = .ok logits) (hrows : logits.length = texts.length)
    {threshold : Json} {cutoff : Float} (hcutoff : Score.suppliedCutoff threshold = .ok cutoff) :
    m.predictMulti texts threshold =
      (Decoding.multi Score.real64 m.labels cutoff (logits.map fun row => row.map Score.widen).length
        (logits.map fun row => row.map Score.widen)).mapError Decoding.Fault.failure := by
  unfold predictMulti
  split
  · rename_i hempty
    rw [List.isEmpty_iff.1 hempty] at hrows
    rw [List.length_eq_zero_iff.1 hrows]
    rfl
  · rename_i hne
    rw [hforward (by simpa using hne), List.length_map, hrows]
    simp only [decodeMulti, hcutoff]

/-- The labels of a text: one for each selected class of it and for no other, by class, with the text of
the table, the sigmoid of the logit, and the place of the text. -/
structure ExactLabels (table : LabelTable) (logits : Logits) (cutoff : Float) (i : Nat)
    (labels : List (Label Float)) : Prop where
  increasing : (labels.map Label.id).Pairwise (· < ·)
  mem_iff : ∀ l, l ∈ labels ↔ ∃ (row : List Float32) (k : Nat) (x : Float32),
    logits[i]? = some row ∧ row[k]? = some x ∧ cutoff ≤ Score.widen x ∧
    Entries.get? (k : Int) table = some l.text ∧ l.score = Score.sigmoid64 (Score.widen x) ∧
    l.id = (k : Int) ∧ l.sentence = i

theorem ExactLabels.eq_nil {table : LabelTable} {logits : Logits} {cutoff : Float} {i : Nat}
    {labels : List (Label Float)} (h : ExactLabels table logits cutoff i labels)
    (hnone : ∀ k, ¬ Selected logits cutoff i k) : labels = [] := by
  rw [List.eq_nil_iff_forall_not_mem]
  intro l hl
  obtain ⟨row, k, x, hrow, hx, hreach, -⟩ := (h.mem_iff l).1 hl
  exact hnone k ⟨row, x, hrow, hx, hreach⟩

theorem exactLabels_of_selects {table : LabelTable} {logits : Logits} {cutoff : Float} {i : Nat}
    {row : List Float32} {labels : List (Label Float)} (hrow : logits[i]? = some row)
    (h : Decoding.Selects Score.real64 table cutoff i (row.map Score.widen) labels) :
    ExactLabels table logits cutoff i labels := by
  refine ⟨h.increasing, fun l => ?_⟩
  rw [h.mem_iff]
  constructor
  · rintro ⟨k, y, hy, hreach, hrest⟩
    rw [List.getElem?_map, Option.map_eq_some_iff] at hy
    obtain ⟨x, hx, rfl⟩ := hy
    exact ⟨row, k, x, hrow, hx, of_decide_eq_true hreach, hrest⟩
  · rintro ⟨row', k, x, hrow', hx, hreach, hrest⟩
    rw [hrow] at hrow'
    cases hrow'
    exact ⟨k, Score.widen x, by rw [List.getElem?_map, hx]; rfl, decide_eq_true hreach, hrest⟩

theorem not_selected_of_isNaN {logits : Logits} {cutoff : Float} {i k : Nat} {row : List Float32}
    {x : Float32} (hrow : logits[i]? = some row) (hx : row[k]? = some x) (hnan : x.isNaN = true) :
    ¬ Selected logits cutoff i k := by
  rintro ⟨row', x', hrow', hx', hreach⟩
  rw [hrow] at hrow'
  cases hrow'
  rw [hx] at hx'
  cases hx'
  exact Score.not_le_of_isNaN ((Score.isNaN_widen x).trans hnan) cutoff hreach

/-- Multi-label classification over as many rows of logits as texts is exact. Where every selected class
has a label, each text is given, at its place, one label for each class whose logit reaches the cutoff and
for no other, by class; so a text without such a class keeps an empty list. Otherwise the first selected
class without a label decides the failure, text by text and by class. What is no number is not selected. -/
theorem multilabel_exact (texts : List τ) {logits : Logits}
    (hforward : texts ≠ [] → m.forward texts = .ok logits) (hrows : logits.length = texts.length)
    {threshold : Json} {cutoff : Float} (hcutoff : Score.suppliedCutoff threshold = .ok cutoff) :
    ((∀ i k, Selected logits cutoff i k → (k : Int) ∈ Entries.keys m.labels) →
      ∃ lists, m.predictMulti texts threshold = .ok lists ∧ lists.length = texts.length ∧
        ∀ i labels, lists[i]? = some labels → ExactLabels m.labels logits cutoff i labels ∧
          ((∀ k, ¬ Selected logits cutoff i k) → labels = [])) ∧
    ((¬ ∀ i k, Selected logits cutoff i k → (k : Int) ∈ Entries.keys m.labels) →
      ∃ i k, Selected logits cutoff i k ∧ (k : Int) ∉ Entries.keys m.labels ∧
        (∀ i' k', Selected logits cutoff i' k' → (k' : Int) ∉ Entries.keys m.labels →
          i < i' ∨ i = i' ∧ k ≤ k') ∧
        m.predictMulti texts threshold = .error (noLabelFailure k)) ∧
    ∀ (i k : Nat) (row : List Float32) (x : Float32), logits[i]? = some row → row[k]? = some x →
      x.isNaN = true → ¬ Selected logits cutoff i k := by
  rw [predictMulti_of_cutoff hforward hrows hcutoff]
  refine ⟨fun h => ?_, fun h => ?_, fun i k row x hrow hx => not_selected_of_isNaN hrow hx⟩
  · simp only [← reached_iff] at h
    obtain ⟨lists, hlists, hlength, hselects⟩ := Decoding.multi_of_labelled h
    rw [List.length_map] at hlength
    refine ⟨lists, by rw [hlists]; rfl, hlength.trans hrows, fun i labels hi => ?_⟩
    obtain ⟨wide, hwide, hsel⟩ := hselects i labels hi
    rw [List.getElem?_map, Option.map_eq_some_iff] at hwide
    obtain ⟨row, hrow, rfl⟩ := hwide
    have hexact := exactLabels_of_selects hrow hsel
    exact ⟨hexact, hexact.eq_nil⟩
  · simp only [← reached_iff] at h ⊢
    obtain ⟨i, k, hreached, hk, hfirst, hfail⟩ := Decoding.multi_of_unlabelled h
    exact ⟨i, k, hreached, hk, hfirst, by rw [hfail]; rfl⟩

/-- Logits of two texts, the second of which were no numbers. -/
def halfBroken : Logits := [[1, 2], [0 / 0, 0 / 0]]

def yesNo : Facade String := ⟨[(0, .str "no"), (1, .str "yes")], fun _ => .ok halfBroken⟩

theorem multilabel_exact_of_halfBroken :
    (∀ i k, Selected halfBroken (Score.logitCutoff Score.real64 0.5) i k →
      (k : Int) ∈ Entries.keys yesNo.labels) ∧
    ∃ lists, yesNo.predictMulti ["fine", "broken"] (.float 0.5) = .ok lists ∧ lists.length = 2 ∧
      lists[1]? = some [] := by
  have hcutoff : Score.suppliedCutoff (.float 0.5) = .ok (Score.logitCutoff Score.real64 0.5) := rfl
  have hforward : ["fine", "broken"] ≠ [] → yesNo.forward ["fine", "broken"] = .ok halfBroken := fun _ => rfl
  obtain ⟨hexact, -, hnan⟩ := multilabel_exact ["fine", "broken"] hforward rfl hcutoff
  have hkeys : ∀ i k, Selected halfBroken (Score.logitCutoff Score.real64 0.5) i k →
      (k : Int) ∈ Entries.keys yesNo.labels := by
    rintro i k ⟨row, x, hrow, hx, -⟩
    have hwide : row.length = 2 := by
      have hmem := List.mem_of_getElem? hrow
      simp only [halfBroken, List.mem_cons, List.not_mem_nil, or_false] at hmem
      rcases hmem with rfl | rfl <;> rfl
    have hk : k < 2 := hwide ▸ (List.getElem?_eq_some_iff.1 hx).1
    have hcases : k = 0 ∨ k = 1 := by omega
    rcases hcases with rfl | rfl <;> decide
  obtain ⟨lists, hlists, hlength, hlabels⟩ := hexact hkeys
  obtain ⟨labels, hlabel⟩ : ∃ labels, lists[1]? = some labels :=
    ⟨_, List.getElem?_eq_getElem (by rw [hlength]; decide)⟩
  have hnone : ∀ k, ¬ Selected halfBroken (Score.logitCutoff Score.real64 0.5) 1 k := by
    intro k hsel
    have ⟨row, x, hrow, hx, _⟩ := hsel
    have hbroken : x = 0 / 0 := by
      have hmem : x ∈ [0 / 0, 0 / 0] := Option.some.inj hrow ▸ List.mem_of_getElem? hx
      simpa using hmem
    exact hnan 1 k row x hrow hx (hbroken ▸ by decide +kernel) hsel
  exact ⟨hkeys, lists, hlists, hlength, by rw [hlabel, (hlabels 1 labels hlabel).2 hnone]⟩

end Facade

end SequenceClassification
