import SequenceClassification.Proofs.Decoding.Selection
import SequenceClassification.Proofs.Decoding.Winners

/-!
The two ways of classification agree. Where probabilities are in the order of the logits, the winner of a
row has a logit that no other exceeds, and widening keeps it so; if any class of the row reaches the cutoff,
the winner does. Main statement: over a table that covers the classes, a text that is given any labels by
multi-label classification is also given the label of single-label classification.
-/
namespace SequenceClassification

namespace Decoding

variable {σ : Type} {exceeds : σ → σ → Bool}

/-- The best entry has the greatest key, if what is better has no smaller key and what is not has no greater
one. -/
theorem key_le_of_best? {β : Type} [LinearOrder β] {row : List σ} {f : ℕ → β}
    (hkey : ∀ (i j : ℕ) x y, row[i]? = some x → row[j]? = some y →
      (exceeds x y = true → f j ≤ f i) ∧ (exceeds x y = false → f i ≤ f j))
    {k : ℕ} {s : σ} (h : best? exceeds row = some (k, s)) : ∀ i < row.length, f i ≤ f k := by
  induction row generalizing f k s with
  | nil => simp [best?] at h
  | cons x rest ih =>
    intro i hi
    simp only [best?] at h
    split at h
    · rename_i hrest
      rw [(best?_eq_none_iff exceeds rest).1 hrest, List.length_singleton] at hi
      cases h
      obtain rfl : i = 0 := by omega
      exact le_rfl
    · rename_i j y hrest
      have hbest : ∀ i < rest.length, f (i + 1) ≤ f (j + 1) :=
        ih (f := fun i => f (i + 1)) (fun i i' x y hx hy => hkey (i + 1) (i' + 1) x y hx hy) hrest
      have hfirst := hkey (j + 1) 0 y x (by simpa using getElem?_best? hrest) rfl
      split at h
      · rename_i hexceeds
        cases h
        cases i with
        | zero => exact hfirst.1 hexceeds
        | succ i => exact hbest i (by simpa using hi)
      · rename_i hexceeds
        cases h
        have hfirst' := hfirst.2 (by simpa using hexceeds)
        cases i with
        | zero => exact le_rfl
        | succ i => exact (hbest i (by simpa using hi)).trans hfirst'

end Decoding

/-- The probabilities of a row are in the order of its logits. -/
def Score.KeepsOrder (row : List Float32) : Prop :=
  ∀ (i j : ℕ) x y p q, row[i]? = some x → row[j]? = some y → (Score.softmax32 row)[i]? = some p →
    (Score.softmax32 row)[j]? = some q → (p < q ↔ x < y)

instance (row : List Float32) : Decidable (Score.KeepsOrder row) :=
  decidable_of_iff (∀ i < row.length, ∀ j < row.length,
      ((Score.softmax32 row).getD i 0 < (Score.softmax32 row).getD j 0 ↔ row.getD i 0 < row.getD j 0)) <| by
    constructor
    · intro h i j x y p q hx hy hp hq
      have hij := h i (List.getElem?_eq_some_iff.1 hx).1 j (List.getElem?_eq_some_iff.1 hy).1
      simpa only [List.getD_eq_getElem?_getD, hx, hy, hp, hq, Option.getD_some] using hij
    · intro h i hi j hj
      have hlength := Score.length_softmax32 row
      have hij := h i j _ _ _ _ (List.getElem?_eq_getElem hi) (List.getElem?_eq_getElem hj)
        (List.getElem?_eq_getElem (by omega)) (List.getElem?_eq_getElem (by omega))
      simpa only [List.getD_eq_getElem?_getD, List.getElem?_eq_getElem hi, List.getElem?_eq_getElem hj,
        List.getElem?_eq_getElem (show i < (Score.softmax32 row).length by omega),
        List.getElem?_eq_getElem (show j < (Score.softmax32 row).length by omega), Option.getD_some] using hij

namespace Facade

/-- What is better by the probabilities has no smaller logit, and what is not has no greater one. -/
theorem exceeds32_place {p q : Float32} {a b : ℤ ×ₗ ℤ ×ₗ ℤ} (hlt : p < q ↔ a < b) (hgt : q < p ↔ b < a) :
    (Score.exceeds32 p q = true → b ≤ a) ∧ (Score.exceeds32 p q = false → a ≤ b) := by
  constructor
  · intro h
    simp only [Score.exceeds32, Bool.or_eq_true, Bool.and_eq_true, decide_eq_true_eq] at h
    rcases h with hbetter | ⟨hnan, -⟩
    · exact (hgt.1 hbetter).le
    · exact not_lt.1 (mt hlt.2 (Score.not_lt_of_isNaN hnan))
  · intro h
    simp only [Score.exceeds32, Bool.or_eq_false_iff, decide_eq_false_iff_not] at h
    exact not_lt.1 (mt hgt.2 h.1)

/-- No logit of the row exceeds that of the winner. -/
theorem place_le_of_winner {row : List Float32} (hnumbers : ∀ x ∈ row, x.isNaN = false)
    (hkeeps : Score.KeepsOrder row) {k : ℕ} {x : Float32} (hwinner : winner row = some k)
    (hx : row[k]? = some x) : ∀ y ∈ row, Score.place32 y ≤ Score.place32 x := by
  obtain ⟨⟨k, s⟩, hbest, rfl⟩ := Option.map_eq_some_iff.1 hwinner
  let key : ℕ → ℤ ×ₗ ℤ ×ₗ ℤ := fun i => Score.place32 ((row[i]?).getD 0)
  have hkey : ∀ (i j : ℕ) p q, (Score.softmax32 row)[i]? = some p → (Score.softmax32 row)[j]? = some q →
      (Score.exceeds32 p q = true → key j ≤ key i) ∧ (Score.exceeds32 p q = false → key i ≤ key j) := by
    have horder : ∀ (i j : ℕ) p q, (Score.softmax32 row)[i]? = some p →
        (Score.softmax32 row)[j]? = some q → (p < q ↔ key i < key j) := by
      intro i j p q hp hq
      have hi : i < row.length := Score.length_softmax32 row ▸ (List.getElem?_eq_some_iff.1 hp).1
      have hj : j < row.length := Score.length_softmax32 row ▸ (List.getElem?_eq_some_iff.1 hq).1
      have hxi := List.getElem?_eq_getElem hi
      have hxj := List.getElem?_eq_getElem hj
      simp only [key, hxi, hxj, Option.getD_some]
      rw [hkeeps i j _ _ p q hxi hxj hp hq]
      exact Score.lt32_iff_place (hnumbers _ (List.getElem_mem hi)) (hnumbers _ (List.getElem_mem hj))
    exact fun i j p q hp hq => exceeds32_place (horder i j p q hp hq) (horder j i q p hq hp)
  intro y hy
  obtain ⟨i, hi, rfl⟩ := List.mem_iff_getElem.1 hy
  have hle := Decoding.key_le_of_best? hkey hbest i (by rwa [Score.length_softmax32])
  simpa [key, hx, hi] using hle

theorem lt_of_winner {row : List Float32} {k : ℕ} (h : winner row = some k) : k < row.length := by
  obtain ⟨⟨k, s⟩, hbest, rfl⟩ := Option.map_eq_some_iff.1 h
  exact Score.length_softmax32 row ▸ Decoding.best?_lt hbest

/-- If any class of a row is selected, the winner is; if none is, the logit of the winner is below the
cutoff, or the cutoff is no number. -/
theorem agrees_of_exactLabels {table : LabelTable} {logits : Logits} {cutoff : Float} {i : ℕ}
    {row : List Float32} (hrow : logits[i]? = some row) (hnumbers : ∀ x ∈ row, x.isNaN = false)
    (hkeeps : Score.KeepsOrder row) {l : Label Float} {ls : List (Label Float)}
    (hl : NamesWinner table i row l) (hls : ExactLabels table logits cutoff i ls) :
    (ls ≠ [] → ∃ l' ∈ ls, l'.id = l.id ∧ l'.text = l.text ∧ l'.sentence = l.sentence) ∧
    (ls = [] → ∃ (k : ℕ) (x : Float32), row[k]? = some x ∧ l.id = k ∧
      (Score.widen x < cutoff ∨ cutoff.isNaN = true)) := by
  obtain ⟨k, hwinner, hid⟩ := hl.winner
  obtain ⟨x, hx⟩ : ∃ x, row[k]? = some x := ⟨_, List.getElem?_eq_getElem (lt_of_winner hwinner)⟩
  have hmem : x ∈ row := List.mem_of_getElem? hx
  have htext : Entries.get? (k : ℤ) table = some l.text := hid ▸ hl.text
  have hselected : cutoff ≤ Score.widen x →
      (⟨l.text, Score.sigmoid64 (Score.widen x), k, i⟩ : Label Float) ∈ ls := fun hreach =>
    (hls.mem_iff _).2 ⟨row, k, x, hrow, hx, hreach, htext, rfl, rfl, rfl⟩
  constructor
  · intro hne
    obtain ⟨l', hl'⟩ := List.exists_mem_of_ne_nil ls hne
    obtain ⟨row', k', y, hrow', hy, hreach, -⟩ := (hls.mem_iff l').1 hl'
    obtain rfl : row = row' := Option.some.inj (hrow.symm.trans hrow')
    have hy' : y ∈ row := List.mem_of_getElem? hy
    have hwiden : Score.widen y ≤ Score.widen x :=
      Score.widen_le_widen (hnumbers y hy') (hnumbers x hmem)
        (place_le_of_winner hnumbers hkeeps hwinner hx y hy')
    exact ⟨_, hselected (Score.le64_trans hreach hwiden), hid.symm, rfl, hl.sentence.symm⟩
  · rintro rfl
    have hbelow : ¬ cutoff ≤ Score.widen x := fun hreach => List.not_mem_nil (hselected hreach)
    have hnumber : (Score.widen x).isNaN = false := (Score.isNaN_widen x).trans (hnumbers x hmem)
    exact ⟨k, x, hx, hid, Score.lt_or_isNaN_of_not_le hnumber hbelow⟩

section
variable {τ : Type} {m : Facade τ} {texts : List τ} {logits : Logits} {classes : ℕ}

/-- Over a table that covers the classes, multi-label classification answers with the selected classes of
each text. -/
theorem exists_predictMulti (hforward : texts ≠ [] → m.forward texts = .ok logits)
    (hrows : logits.length = texts.length) (hwidth : ∀ row ∈ logits, row.length = classes)
    (hcovers : m.labels.Covers classes) {threshold : Json} {cutoff : Float}
    (hcutoff : Score.suppliedCutoff threshold = .ok cutoff) :
    ∃ lists, m.predictMulti texts threshold = .ok lists ∧ lists.length = texts.length ∧
      ∀ (i : ℕ) ls, lists[i]? = some ls → ExactLabels m.labels logits cutoff i ls := by
  have hlabelled : ∀ i k, Selected logits cutoff i k → (k : Int) ∈ Entries.keys m.labels := by
    rintro i k ⟨row, x, hrow, hx, -⟩
    have hk := (List.getElem?_eq_some_iff.1 hx).1
    exact hcovers k (hwidth row (List.mem_of_getElem? hrow) ▸ hk)
  simp only [← reached_iff] at hlabelled
  obtain ⟨lists, hlists, hlength, hselects⟩ := Decoding.multi_of_labelled hlabelled
  rw [List.length_map] at hlength
  refine ⟨lists, ?_, hlength.trans hrows, fun i ls hi => ?_⟩
  · rw [predictMulti_of_cutoff hforward hrows hcutoff, hlists]
    rfl
  · obtain ⟨wide, hwide, hselect⟩ := hselects i ls hi
    rw [List.getElem?_map, Option.map_eq_some_iff] at hwide
    obtain ⟨row, hrow, rfl⟩ := hwide
    exact exactLabels_of_selects hrow hselect

/-- Over a table that covers the classes, single-label classification answers with the winner of each
text. -/
theorem exists_predict (hforward : texts ≠ [] → m.forward texts = .ok logits)
    (hrows : logits.length = texts.length) (hwidth : ∀ row ∈ logits, row.length = classes)
    (hcovers : m.labels.Covers classes) (hclasses : texts = [] ∨ 0 < classes) :
    ∃ labels, m.predict texts = .ok labels ∧ labels.length = texts.length ∧
      ∀ (i : ℕ) l, labels[i]? = some l → ∃ row, logits[i]? = some row ∧ NamesWinner m.labels i row l := by
  by_cases hempty : texts = []
  · subst hempty
    exact ⟨[], rfl, rfl, fun i l hl => by cases hl⟩
  · have hne : logits ≠ [] := by
      rw [← List.length_pos_iff, hrows, List.length_pos_iff]
      exact hempty
    have hlabel : ∀ row ∈ logits, HasLabel m.labels row := by
      intro row hrow
      have hpos : row ≠ [] := by
        rw [← List.length_pos_iff, hwidth row hrow]
        exact hclasses.resolve_left hempty
      exact hasLabel_of_covers hcovers hpos (hwidth row hrow).le
    obtain ⟨labels, hlabels, hlength, hwinners⟩ := decodeSingle_of_hasLabel hne hlabel
    refine ⟨labels, ?_, hlength.trans hrows, hwinners⟩
    rw [predict, if_neg (by simpa using hempty), hforward hempty]
    exact hlabels

theorem predict_of_no_classes (hne : texts ≠ [])
    (hforward : texts ≠ [] → m.forward texts = .ok logits) (hrows : logits.length = texts.length)
    (hwidth : ∀ row ∈ logits, row.length = 0) :
    m.predict texts = .error (Decoding.Fault.noClasses 1).failure := by
  have hlogits : logits ≠ [] := by
    rw [← List.length_pos_iff, hrows, List.length_pos_iff]
    exact hne
  obtain ⟨row, rest, rfl⟩ := List.exists_cons_of_ne_nil hlogits
  have hrow : row = [] := List.length_eq_zero_iff.1 (hwidth row (List.mem_cons_self ..))
  rw [predict, if_neg (by simpa using hne), hforward hne]
  simp [decodeSingle, Decoding.single, hrow]

/-- The two ways of classification agree on logits that are finite, if the probabilities of each row are in
the order of its logits and the table covers the classes. A text that is given any labels for a threshold is
given the label of single-label classification among them, and where a text is given none, the logit of that
label is below the cutoff or the cutoff is no number. Without any class nothing is selected and there is no
winner. -/
theorem predict_agrees_predictMulti (hforward : texts ≠ [] → m.forward texts = .ok logits)
    (hrows : logits.length = texts.length) (hwidth : ∀ row ∈ logits, row.length = classes)
    (hcovers : m.labels.Covers classes) (hfinite : ∀ row ∈ logits, ∀ x ∈ row, x.isFinite = true)
    (hkeeps : ∀ row ∈ logits, Score.KeepsOrder row) {threshold : Json} {cutoff : Float}
    (hcutoff : Score.suppliedCutoff threshold = .ok cutoff) :
    ∃ lists, m.predictMulti texts threshold = .ok lists ∧ lists.length = texts.length ∧
      (texts = [] ∨ 0 < classes → ∃ labels, m.predict texts = .ok labels ∧
        labels.length = texts.length ∧ ∀ (i : ℕ) l ls, labels[i]? = some l → lists[i]? = some ls →
          (ls ≠ [] → ∃ l' ∈ ls, l'.id = l.id ∧ l'.text = l.text ∧ l'.sentence = l.sentence) ∧
          (ls = [] → ∃ (row : List Float32) (k : ℕ) (x : Float32), logits[i]? = some row ∧
            row[k]? = some x ∧ l.id = k ∧ (Score.widen x < cutoff ∨ cutoff.isNaN = true))) ∧
      (texts ≠ [] → classes = 0 → (m.predict texts).isOk = false ∧ ∀ ls ∈ lists, ls = []) := by
  obtain ⟨lists, hlists, hlength, hexact⟩ := exists_predictMulti hforward hrows hwidth hcovers hcutoff
  refine ⟨lists, hlists, hlength, fun hclasses => ?_, fun hne hzero => ⟨?_, fun ls hls => ?_⟩⟩
  · obtain ⟨labels, hlabels, hlength', hwinners⟩ :=
      exists_predict hforward hrows hwidth hcovers hclasses
    refine ⟨labels, hlabels, hlength', fun i l ls hl hls => ?_⟩
    obtain ⟨row, hrow, hwinner⟩ := hwinners i l hl
    have hmem := List.mem_of_getElem? hrow
    have hnumbers : ∀ x ∈ row, x.isNaN = false := fun x hx =>
      Score.isNaN_of_isFinite (hfinite row hmem x hx)
    obtain ⟨hsome, hnone⟩ :=
      agrees_of_exactLabels hrow hnumbers (hkeeps row hmem) hwinner (hexact i ls hls)
    refine ⟨hsome, fun hnil => ?_⟩
    obtain ⟨k, x, hx, hid, hbelow⟩ := hnone hnil
    exact ⟨row, k, x, hrow, hx, hid, hbelow⟩
  · rw [predict_of_no_classes hne hforward hrows (hzero ▸ hwidth)]
    rfl
  · obtain ⟨i, hi, rfl⟩ := List.mem_iff_getElem.1 hls
    refine (hexact i _ (List.getElem?_eq_getElem hi)).eq_nil ?_
    rintro k ⟨row, x, hrow, hx, -⟩
    have hk := (List.getElem?_eq_some_iff.1 hx).1
    rw [hwidth row (List.mem_of_getElem? hrow), hzero] at hk
    exact absurd hk (Nat.not_lt_zero k)

end

/-- Logits of a text: two classes share the largest one. -/
def tiedRow (text : String) : List Float32 := if text == "fine" then [1, 3, 3] else [2, -1, 2]

def tiedFacade (table : LabelTable) : Facade String := ⟨table, fun texts => .ok (texts.map tiedRow)⟩

def tied : Logits := [tiedRow "fine", tiedRow "dull"]

def threeClasses : LabelTable := [(0, .str "no"), (1, .str "yes"), (2, .str "maybe")]

/-- Every list of a threshold of zero has the label of single-label classification, and every list of a
threshold of one is empty. -/
theorem predict_agrees_predictMulti_of_tied :
    (∀ row ∈ tied, Score.KeepsOrder row) ∧
    ∃ labels, (tiedFacade threeClasses).predict ["fine", "dull"] = .ok labels ∧ labels.length = 2 ∧
      (∃ lists, (tiedFacade threeClasses).predictMulti ["fine", "dull"] (.int 0) = .ok lists ∧
        lists.length = 2 ∧ ∀ (i : ℕ) l ls, labels[i]? = some l → lists[i]? = some ls →
          ∃ l' ∈ ls, l'.id = l.id ∧ l'.text = l.text ∧ l'.sentence = l.sentence) ∧
      ∃ lists, (tiedFacade threeClasses).predictMulti ["fine", "dull"] (.int 1) = .ok lists ∧
        lists.length = 2 ∧ ∀ (i : ℕ) l ls, labels[i]? = some l → lists[i]? = some ls →
          ls = [] ∧ ∃ (row : List Float32) (k : ℕ) (x : Float32), tied[i]? = some row ∧
            row[k]? = some x ∧ l.id = k ∧ Score.widen x < Score.real64.top := by
  have hforward : ["fine", "dull"] ≠ [] → (tiedFacade threeClasses).forward ["fine", "dull"] = .ok tied :=
    fun _ => rfl
  have hcovers : (tiedFacade threeClasses).labels.Covers 3 := by
    intro i hi
    obtain rfl | rfl | rfl : i = 0 ∨ i = 1 ∨ i = 2 := by omega
    all_goals decide
  have hwidth : ∀ row ∈ tied, row.length = 3 := by decide +kernel
  have hfinite : ∀ row ∈ tied, ∀ x ∈ row, x.isFinite = true := by decide +kernel
  have hkeeps : ∀ row ∈ tied, Score.KeepsOrder row := by decide +kernel
  have hlow : Score.suppliedCutoff (.int 0) = .ok Score.real64.bottom := rfl
  have hhigh : Score.suppliedCutoff (.int 1) = .ok Score.real64.top := rfl
  obtain ⟨all, hall, hcountAll, hagreeAll, -⟩ :=
    predict_agrees_predictMulti hforward rfl hwidth hcovers hfinite hkeeps hlow
  obtain ⟨nothing, hnone, hcountNone, hagreeNone, -⟩ :=
    predict_agrees_predictMulti hforward rfl hwidth hcovers hfinite hkeeps hhigh
  obtain ⟨labels, hlabels, hlength, hplacesAll⟩ := hagreeAll (.inr (by decide))
  obtain ⟨labels', hlabels', -, hplacesNone⟩ := hagreeNone (.inr (by decide))
  obtain rfl : labels = labels' := Except.ok.inj (hlabels.symm.trans hlabels')
  obtain ⟨lists, hlists, -, hexact⟩ := exists_predictMulti hforward rfl hwidth hcovers hhigh
  obtain rfl : lists = nothing := Except.ok.inj (hlists.symm.trans hnone)
  refine ⟨hkeeps, labels, hlabels, hlength, ⟨all, hall, hcountAll, fun i l ls hl hls => ?_⟩,
    lists, hnone, hcountNone, fun i l ls hl hls => ?_⟩
  · refine (hplacesAll i l ls hl hls).1 fun hnil => ?_
    obtain ⟨row, k, x, hrow, hx, -, hbelow⟩ := (hplacesAll i l ls hl hls).2 hnil
    have habove : ∀ row ∈ tied, ∀ x ∈ row, ¬ (Score.widen x < Score.real64.bottom ∨
        Score.real64.bottom.isNaN = true) := by decide +kernel
    exact habove row (List.mem_of_getElem? hrow) x (List.mem_of_getElem? hx) hbelow
  · have hunreached : ∀ row ∈ tied, ∀ x ∈ row, ¬ Score.real64.top ≤ Score.widen x := by decide +kernel
    have hnil : ls = [] := (hexact i ls hls).eq_nil fun k ⟨row, x, hrow, hx, hreach⟩ =>
      hunreached row (List.mem_of_getElem? hrow) x (List.mem_of_getElem? hx) hreach
    obtain ⟨row, k, x, hrow, hx, hid, hbelow⟩ := (hplacesNone i l ls hl hls).2 hnil
    have hnumber : ¬ Score.real64.top.isNaN = true := by decide +kernel
    exact ⟨hnil, row, k, x, hrow, hx, hid, hbelow.resolve_right hnumber⟩

end Facade

end SequenceClassification
