import Mathlib.Analysis.SpecialFunctions.Sigmoid
import Mathlib.Data.EReal.Operations
import SequenceClassification.Proofs.Decoding.Boundaries

/-!
Thresholds and scores. Multi-label decoding does not compare scores with the threshold: it compares logits
with the cutoff, the inverse of the sigmoid at the threshold. With logarithms and the sigmoid of real
analysis the two comparisons are one. Main statement: decoding in exact arithmetic selects the classes whose
score reaches the threshold, and a higher threshold keeps of each list a part in the same order; floating
point keeps that part wherever its cutoffs are in order.
-/
namespace SequenceClassification

namespace Score

/-- Exact arithmetic: the real numbers between one value below and one above them all. -/
noncomputable def exact : Arithmetic EReal where
  zero := 0
  one := 1
  bottom := ⊥
  top := ⊤
  atMost := fun a b => decide (a ≤ b)
  sub := fun a b => a - b
  log := fun a => Real.log a.toReal
  logOneLess := fun a => Real.log (1 - a.toReal)
  sigmoid := fun a => Real.sigmoid a.toReal

/-- The sigmoid undoes the difference of the logarithms. -/
theorem sigmoid_log_sub_log {t : ℝ} (hpos : 0 < t) (hlt : t < 1) :
    Real.sigmoid (Real.log t - Real.log (1 - t)) = t := by
  have hrest : 0 < 1 - t := by linarith
  have hpower : Real.exp (-(Real.log t - Real.log (1 - t))) = (1 - t) / t := by
    rw [neg_sub, Real.exp_sub, Real.exp_log hrest, Real.exp_log hpos]
  have hsum : 1 + (1 - t) / t = t⁻¹ := by
    field_simp
    ring
  rw [Real.sigmoid_def, hpower, hsum, inv_inv]

theorem logitCutoff_exact_of_between {t : ℝ} (hpos : 0 < t) (hlt : t < 1) :
    logitCutoff exact t = ((Real.log t - Real.log (1 - t) : ℝ) : EReal) := by
  have hzero : exact.atMost t exact.zero = false :=
    decide_eq_false (not_le.2 (EReal.coe_pos.2 hpos))
  have hone : exact.atMost exact.one t = false :=
    decide_eq_false (not_le.2 (EReal.coe_lt_coe_iff.2 hlt))
  rw [logitCutoff, hzero, hone]
  rfl

/-- A logit reaches the cutoff of a threshold exactly if its sigmoid reaches the threshold. -/
theorem logitCutoff_exact_le_iff (t x : ℝ) : logitCutoff exact t ≤ x ↔ t ≤ Real.sigmoid x := by
  rcases le_or_gt t 0 with hnonpos | hpos
  · have hcutoff : logitCutoff exact t = ⊥ :=
      logitCutoff_of_atMost_zero exact (decide_eq_true (EReal.coe_nonpos.2 hnonpos))
    rw [hcutoff]
    exact iff_of_true bot_le (hnonpos.trans (Real.sigmoid_nonneg x))
  · rcases le_or_gt 1 t with hone | hlt
    · have hzero : exact.atMost t exact.zero = false :=
        decide_eq_false (not_le.2 (EReal.coe_pos.2 hpos))
      have hcutoff : logitCutoff exact t = ⊤ :=
        logitCutoff_of_one_atMost exact hzero (decide_eq_true (EReal.coe_le_coe_iff.2 hone))
      rw [hcutoff]
      exact iff_of_false (not_le.2 (EReal.coe_lt_top x))
        (not_le.2 ((Real.sigmoid_lt_one x).trans_le hone))
    · rw [logitCutoff_exact_of_between hpos hlt, EReal.coe_le_coe_iff, ← Real.sigmoid_le_iff,
        sigmoid_log_sub_log hpos hlt]

/-- Between two cutoffs in the wrong order there would be a logit that reaches only the one of the higher
threshold. -/
theorem logitCutoff_exact_mono {t u : ℝ} (h : t ≤ u) : logitCutoff exact t ≤ logitCutoff exact u := by
  by_contra hgt
  obtain ⟨x, hux, hxt⟩ := EReal.lt_iff_exists_real_btwn.1 (not_le.1 hgt)
  have hscore : u ≤ Real.sigmoid x := (logitCutoff_exact_le_iff u x).1 hux.le
  exact not_le.2 hxt ((logitCutoff_exact_le_iff t x).2 (h.trans hscore))

end Score

/-- Of a list that is computed step by step a part can be computed, and its values are a part in the same
order. -/
theorem exists_mapM_of_sublist {ε α β : Type} {f : α → Except ε β} {xs ys : List α} (h : ys.Sublist xs)
    {bs : List β} (hbs : xs.mapM f = .ok bs) : ∃ cs, ys.mapM f = .ok cs ∧ cs.Sublist bs := by
  induction h generalizing bs with
  | slnil => exact ⟨bs, hbs, List.Sublist.refl bs⟩
  | cons x _ ih =>
    rw [mapM_cons_eq] at hbs
    obtain ⟨b, -, hbs⟩ := bind_eq_ok hbs
    obtain ⟨rest, hrest, rfl⟩ := map_eq_ok hbs
    obtain ⟨cs, hcs, hsub⟩ := ih hrest
    exact ⟨cs, hcs, hsub.cons b⟩
  | cons_cons x _ ih =>
    rw [mapM_cons_eq] at hbs
    obtain ⟨b, hb, hbs⟩ := bind_eq_ok hbs
    obtain ⟨rest, hrest, rfl⟩ := map_eq_ok hbs
    obtain ⟨cs, hcs, hsub⟩ := ih hrest
    exact ⟨b :: cs, by rw [mapM_cons_eq, hb, hcs]; rfl, hsub.cons_cons b⟩

namespace Decoding

section
variable {α : Type} {A : Score.Arithmetic α} {table : LabelTable} {low high : α}
  (hreach : ∀ x, A.atMost high x = true → A.atMost low x = true)
include hreach

/-- What reaches the higher cutoff is a part of what reaches the lower one. -/
theorem reaching_sublist (row : List α) : (reaching A high row).Sublist (reaching A low row) :=
  List.monotone_filter_right _ fun p => hreach p.1

theorem selectFrom_sublist {sentence : Nat} {row : List α} {labels : List (Label α)}
    (h : selectFrom A table low sentence 0 row = .ok labels) :
    ∃ fewer, selectFrom A table high sentence 0 row = .ok fewer ∧ fewer.Sublist labels := by
  rw [selectFrom_eq_mapM] at h ⊢
  exact exists_mapM_of_sublist (reaching_sublist hreach row) h

/-- Where decoding returns for a cutoff it returns for every higher one, and each text keeps a part of its
labels in the same order. -/
theorem multiFrom_sublist {sentence texts : Nat} {rows : List (List α)} {lists : List (List (Label α))}
    (h : multiFrom A table low sentence texts rows = .ok lists) :
    ∃ fewer, multiFrom A table high sentence texts rows = .ok fewer ∧
      List.Forall₂ List.Sublist fewer lists := by
  induction rows generalizing sentence texts lists with
  | nil =>
    exact ⟨lists, h, List.forall₂_same.2 fun labels _ => List.Sublist.refl labels⟩
  | cons row rest ih =>
    cases texts with
    | zero =>
      unfold multiFrom at h ⊢
      split at h
      · cases h
      · rename_i hnone
        have hnone' : ¬ row.any (A.atMost high) = true := by
          intro hany
          obtain ⟨x, hx, hxh⟩ := List.any_eq_true.1 hany
          exact hnone (List.any_eq_true.2 ⟨x, hx, hreach x hxh⟩)
        rw [if_neg hnone']
        exact ih h
    | succ texts =>
      rw [multiFrom_cons] at h ⊢
      obtain ⟨labels, hlabels, h⟩ := bind_eq_ok h
      obtain ⟨others, hothers, rfl⟩ := map_eq_ok h
      obtain ⟨fewer, hfewer, hsub⟩ := selectFrom_sublist hreach hlabels
      obtain ⟨fewerOthers, hfewerOthers, hsubs⟩ := ih hothers
      exact ⟨fewer :: fewerOthers, by rw [hfewer, hfewerOthers]; rfl, .cons hsub hsubs⟩

end

/-- Rows of real numbers, for exact arithmetic. -/
noncomputable def exactRows (rows : List (List ℝ)) : List (List EReal) :=
  rows.map fun row => row.map Real.toEReal

/-- The labels of a row by its scores: one for each class whose sigmoid reaches the threshold and for no
other, by class, with the text of the table, the sigmoid, and the place of the row. -/
structure ByScore (table : LabelTable) (threshold : ℝ) (sentence : Nat) (row : List ℝ)
    (labels : List (Label EReal)) : Prop where
  increasing : (labels.map Label.id).Pairwise (· < ·)
  mem_iff : ∀ l, l ∈ labels ↔ ∃ (class_ : Nat) (x : ℝ), row[class_]? = some x ∧
    threshold ≤ Real.sigmoid x ∧ Entries.get? (class_ : Int) table = some l.text ∧
    l.score = Real.sigmoid x ∧ l.id = class_ ∧ l.sentence = sentence

section
variable {table : LabelTable} {threshold : ℝ} {rows : List (List ℝ)}

theorem byScore_of_selects {sentence : Nat} {row : List ℝ} {labels : List (Label EReal)}
    (h : Selects Score.exact table (Score.logitCutoff Score.exact threshold) sentence
      (row.map Real.toEReal) labels) : ByScore table threshold sentence row labels := by
  refine ⟨h.increasing, fun l => (h.mem_iff l).trans ?_⟩
  constructor
  · rintro ⟨k, y, hy, hreach, hlabel⟩
    rw [List.getElem?_map, Option.map_eq_some_iff] at hy
    obtain ⟨x, hx, rfl⟩ := hy
    exact ⟨k, x, hx, (Score.logitCutoff_exact_le_iff threshold x).1 (of_decide_eq_true hreach), hlabel⟩
  · rintro ⟨k, x, hx, hscore, hlabel⟩
    have hreach : Score.exact.atMost (Score.logitCutoff Score.exact threshold) x = true :=
      decide_eq_true ((Score.logitCutoff_exact_le_iff threshold x).2 hscore)
    exact ⟨k, x, by rw [List.getElem?_map, hx]; rfl, hreach, hlabel⟩

/-- Where every class whose score reaches the threshold has a label, each row is given the labels of these
classes. -/
theorem exists_multi_exact (hlabelled : ∀ row ∈ rows, ∀ (k : ℕ) (x : ℝ), row[k]? = some x →
      threshold ≤ Real.sigmoid x → (k : Int) ∈ Entries.keys table) :
    ∃ lists, multi Score.exact table (Score.logitCutoff Score.exact threshold) rows.length
      (exactRows rows) = .ok lists ∧
      lists.length = rows.length ∧ ∀ (i : ℕ) labels, lists[i]? = some labels →
        ∃ row, rows[i]? = some row ∧ ByScore table threshold i row labels := by
  have hreached : ∀ i k, Reached Score.exact (Score.logitCutoff Score.exact threshold) (exactRows rows) i k →
      (k : Int) ∈ Entries.keys table := by
    rintro i k ⟨row', y, hrow, hy, hreach⟩
    rw [exactRows, List.getElem?_map, Option.map_eq_some_iff] at hrow
    obtain ⟨row, hrow, rfl⟩ := hrow
    rw [List.getElem?_map, Option.map_eq_some_iff] at hy
    obtain ⟨x, hx, rfl⟩ := hy
    exact hlabelled row (List.mem_of_getElem? hrow) k x hx
      ((Score.logitCutoff_exact_le_iff threshold x).1 (of_decide_eq_true hreach))
  obtain ⟨lists, hlists, hlength, hselects⟩ := multi_of_labelled hreached
  have hrows : (exactRows rows).length = rows.length := List.length_map _
  rw [hrows] at hlists hlength
  refine ⟨lists, hlists, hlength, fun i labels hi => ?_⟩
  obtain ⟨row', hrow, hselect⟩ := hselects i labels hi
  rw [exactRows, List.getElem?_map, Option.map_eq_some_iff] at hrow
  obtain ⟨row, hrow, rfl⟩ := hrow
  exact ⟨row, hrow, byScore_of_selects hselect⟩

end

end Decoding

namespace Facade

/-- Classification at a cutoff that is no lower keeps of each list a part in the same order. -/
theorem predictMulti_sublist {τ : Type} {m : Facade τ} {texts : List τ} {low high : Json}
    {lower upper : Float} (hlow : Score.suppliedCutoff low = .ok lower)
    (hhigh : Score.suppliedCutoff high = .ok upper) (hle : lower ≤ upper)
    {lists : List (List (Label Float))} (h : m.predictMulti texts low = .ok lists) :
    ∃ fewer, m.predictMulti texts high = .ok fewer ∧ List.Forall₂ List.Sublist fewer lists := by
  have hreach : ∀ x, Score.real64.atMost upper x = true → Score.real64.atMost lower x = true :=
    fun x hx => decide_eq_true (Score.le64_trans hle (of_decide_eq_true hx))
  unfold predictMulti at h ⊢
  split at h
  · rename_i hempty
    cases h
    exact ⟨[], if_pos hempty, .nil⟩
  · rename_i hne
    rw [if_neg hne]
    cases hforward : m.forward texts with
    | error e =>
      rw [hforward] at h
      cases h
    | ok logits =>
      rw [hforward] at h
      simp only [decodeMulti, hlow, hhigh, Decoding.multi_eq_multiFrom] at h ⊢
      obtain ⟨fewer, hfewer, hsub⟩ := Decoding.multiFrom_sublist hreach (mapError_eq_ok h)
      exact ⟨fewer, by rw [hfewer]; rfl, hsub⟩

end Facade

namespace Decoding

/-- Comparing logits with the cutoff is comparing scores with the threshold. In exact arithmetic a logit
reaches the cutoff of a real threshold exactly if its sigmoid reaches the threshold; so decoding gives each
row the labels of the classes whose scores do, and where it returns for a threshold it returns for every
higher one, each row keeping a part of its labels in the same order. The same holds of classification in
floating point for any two thresholds whose cutoffs are in order. -/
theorem scores_decide_selection {τ : Type} (table : LabelTable) (rows : List (List ℝ)) :
    (∀ t x : ℝ, Score.logitCutoff Score.exact t ≤ x ↔ t ≤ Real.sigmoid x) ∧
    (∀ t : ℝ, (∀ row ∈ rows, ∀ (k : ℕ) (x : ℝ), row[k]? = some x → t ≤ Real.sigmoid x →
        (k : Int) ∈ Entries.keys table) →
      ∃ lists, multi Score.exact table (Score.logitCutoff Score.exact t) rows.length (exactRows rows) =
          .ok lists ∧
        lists.length = rows.length ∧ ∀ (i : ℕ) labels, lists[i]? = some labels →
          ∃ row, rows[i]? = some row ∧ ByScore table t i row labels) ∧
    (∀ (t u : ℝ) (texts : ℕ) lists, t ≤ u →
      multi Score.exact table (Score.logitCutoff Score.exact t) texts (exactRows rows) = .ok lists →
      ∃ fewer, multi Score.exact table (Score.logitCutoff Score.exact u) texts (exactRows rows) = .ok fewer ∧
        List.Forall₂ List.Sublist fewer lists) ∧
    ∀ (m : Facade τ) (texts : List τ) (low high : Json) (lower upper : Float) lists,
      Score.suppliedCutoff low = .ok lower → Score.suppliedCutoff high = .ok upper → lower ≤ upper →
      m.predictMulti texts low = .ok lists →
      ∃ fewer, m.predictMulti texts high = .ok fewer ∧ List.Forall₂ List.Sublist fewer lists := by
  refine ⟨Score.logitCutoff_exact_le_iff, fun t => exists_multi_exact, fun t u texts lists h hlists => ?_,
    fun m texts low high lower upper lists hlow hhigh hle => Facade.predictMulti_sublist hlow hhigh hle⟩
  have hreach : ∀ x, Score.exact.atMost (Score.logitCutoff Score.exact u) x = true →
      Score.exact.atMost (Score.logitCutoff Score.exact t) x = true := fun x hx =>
    decide_eq_true ((Score.logitCutoff_exact_mono h).trans (of_decide_eq_true hx))
  rw [multi_eq_multiFrom] at hlists ⊢
  exact multiFrom_sublist hreach hlists

theorem ByScore.mem_map_id_iff {table : LabelTable} {threshold : ℝ} {sentence : Nat} {row : List ℝ}
    {labels : List (Label EReal)} (h : ByScore table threshold sentence row labels)
    (hcovers : table.Covers row.length) (c : Int) :
    c ∈ labels.map Label.id ↔
      ∃ (k : ℕ) (x : ℝ), row[k]? = some x ∧ threshold ≤ Real.sigmoid x ∧ c = k := by
  rw [List.mem_map]
  constructor
  · rintro ⟨l, hl, rfl⟩
    obtain ⟨k, x, hx, hscore, -, -, hid, -⟩ := (h.mem_iff l).1 hl
    exact ⟨k, x, hx, hscore, hid⟩
  · rintro ⟨k, x, hx, hscore, rfl⟩
    have hkey := hcovers k (List.getElem?_eq_some_iff.1 hx).1
    obtain ⟨text, htext⟩ := Option.isSome_iff_exists.1 ((Entries.get?_isSome_iff _ _).2 hkey)
    exact ⟨⟨text, Real.sigmoid x, k, sentence⟩, (h.mem_iff _).2 ⟨k, x, hx, hscore, htext, rfl, rfl, rfl⟩, rfl⟩

/-- Two classes, one of which is as likely as not and the other at odds of three to one. -/
noncomputable def odds : List (List ℝ) := [[0, Real.log 3]]

def noYes : LabelTable := [(0, .str "no"), (1, .str "yes")]

theorem covers_noYes : noYes.Covers 2 := by
  intro i hi
  obtain rfl | rfl : i = 0 ∨ i = 1 := by omega
  all_goals decide

theorem sigmoid_log_three : Real.sigmoid (Real.log 3) = 3 / 4 := by
  have hlog := Score.sigmoid_log_sub_log (t := 3 / 4) (by norm_num) (by norm_num)
  rwa [← Real.log_div (by norm_num) (by norm_num), show (3 / 4 : ℝ) / (1 - 3 / 4) = 3 by norm_num] at hlog

theorem map_id_odds {threshold : ℝ} {i : ℕ} {labels : List (Label EReal)} {ids : List Int}
    (h : ByScore noYes threshold i [0, Real.log 3] labels) (hids : ids.Pairwise (· < ·))
    (hzero : 0 ∈ ids ↔ threshold ≤ 1 / 2) (hone : 1 ∈ ids ↔ threshold ≤ 3 / 4)
    (honly : ∀ c ∈ ids, c = 0 ∨ c = 1) : labels.map Label.id = ids := by
  refine Facade.eq_of_pairwise_lt h.increasing hids fun c => ?_
  rw [h.mem_map_id_iff covers_noYes]
  constructor
  · rintro ⟨k, x, hx, hscore, rfl⟩
    match k with
    | 0 =>
      obtain rfl : 0 = x := by simpa using hx
      exact hzero.2 (by simpa using hscore)
    | 1 =>
      obtain rfl : Real.log 3 = x := by simpa using hx
      exact hone.2 (sigmoid_log_three ▸ hscore)
  · intro hc
    rcases honly c hc with rfl | rfl
    · exact ⟨0, 0, rfl, by simpa using hzero.1 hc, rfl⟩
    · exact ⟨1, Real.log 3, rfl, sigmoid_log_three ▸ hone.1 hc, rfl⟩

/-- At one half both classes are selected, at three quarters the second one alone. -/
theorem scores_decide_selection_of_odds :
    (1 / 2 : ℝ) ≤ 3 / 4 ∧ ∃ lists fewer,
      multi Score.exact noYes (Score.logitCutoff Score.exact (1 / 2 : ℝ)) 1 (exactRows odds) = .ok lists ∧
      lists.map (List.map Label.id) = [[0, 1]] ∧
      multi Score.exact noYes (Score.logitCutoff Score.exact (3 / 4 : ℝ)) 1 (exactRows odds) = .ok fewer ∧
      fewer.map (List.map Label.id) = [[1]] ∧ List.Forall₂ List.Sublist fewer lists := by
  have hlabelled : ∀ (t : ℝ), ∀ row ∈ odds, ∀ (k : ℕ) (x : ℝ), row[k]? = some x → t ≤ Real.sigmoid x →
      (k : Int) ∈ Entries.keys noYes := by
    intro t row hrow k x hx _
    obtain rfl := List.mem_singleton.1 hrow
    exact covers_noYes k (List.getElem?_eq_some_iff.1 hx).1
  obtain ⟨-, hexact, hfewer, -⟩ := scores_decide_selection (τ := String) noYes odds
  have hone : ∀ t : ℝ, ∃ labels, multi Score.exact noYes (Score.logitCutoff Score.exact t) 1
      (exactRows odds) = .ok [labels] ∧ ByScore noYes t 0 [0, Real.log 3] labels := by
    intro t
    obtain ⟨lists, hlists, hlength, hrows⟩ := hexact t (hlabelled t)
    obtain ⟨labels, rfl⟩ := List.length_eq_one_iff.1 hlength
    obtain ⟨row, hrow, hscores⟩ := hrows 0 labels rfl
    obtain rfl : [0, Real.log 3] = row := Option.some.inj hrow
    exact ⟨labels, hlists, hscores⟩
  obtain ⟨both, hboth, hbothScores⟩ := hone (1 / 2)
  obtain ⟨second, hsecond, hsecondScores⟩ := hone (3 / 4)
  have hle : (1 / 2 : ℝ) ≤ 3 / 4 := by norm_num
  obtain ⟨fewer, hkept, hsub⟩ := hfewer (1 / 2) (3 / 4) 1 [both] hle hboth
  obtain rfl : [second] = fewer := Except.ok.inj (hsecond.symm.trans hkept)
  have hbothIds : both.map Label.id = [0, 1] :=
    map_id_odds hbothScores (by decide) (by norm_num) (by norm_num) (by decide)
  have hsecondIds : second.map Label.id = [1] :=
    map_id_odds hsecondScores (by decide) (by norm_num) (by norm_num) (by decide)
  exact ⟨hle, [both], [second], hboth, by rw [List.map_singleton, hbothIds], hsecond,
    by rw [List.map_singleton, hsecondIds], hsub⟩

end Decoding

end SequenceClassification
