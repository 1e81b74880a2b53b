import SequenceClassification.Proofs.Decoding.Agreement
import SequenceClassification.Proofs.Decoding.FiniteLabels

/-!
Single-label classification. Where probabilities are in the order of the logits, the winner of a row is the
first class with the largest logit, and no probability of the row exceeds its own. Main statement: over
finite logits each row is given the label of that class with its probability, unless it has no label, and
then the first such row decides the failure; rows decoded together are decoded as they are apart, numbered
one batch after the other.
-/
namespace SequenceClassification

/-- The label of a text that stands `count` places further on. -/
def Label.movedBy {σ : Type} (count : ℕ) (l : Label σ) : Label σ :=
  { l with sentence := l.sentence + count }

namespace Decoding

variable {σ : Type} {exceeds : σ → σ → Bool} {table : LabelTable}

/-- The best entry is strictly better than all before it: it is the first of several. -/
theorem exceeds_of_best? {row : List σ} {k : ℕ} {s : σ} (h : best? exceeds row = some (k, s)) :
    ∀ j < k, ∀ y, row[j]? = some y → exceeds s y = true := by
  induction row generalizing k s with
  | nil => simp [best?] at h
  | cons x rest ih =>
    intro j hj y hy
    simp only [best?] at h
    split at h
    · cases h
      omega
    · rename_i i z hrest
      split at h
      · rename_i hbetter
        cases h
        cases j with
        | zero =>
          obtain rfl : x = y := Option.some.inj hy
          exact hbetter
        | succ j => exact ih hrest j (by omega) y hy
      · cases h
        omega

theorem labelOf_add (table : LabelTable) (sentence count class_ : ℕ) (score : σ) :
    labelOf table (sentence + count) class_ score =
      (labelOf table sentence class_ score).map (Label.movedBy count) := by
  unfold labelOf
  cases Entries.get? (class_ : Int) table <;> rfl

/-- Rows that are numbered from further on are given the same labels, further on. -/
theorem singleFrom_add (sentence count : ℕ) (rows : List (List σ)) :
    singleFrom exceeds table (sentence + count) rows =
      (singleFrom exceeds table sentence rows).map (List.map (Label.movedBy count)) := by
  induction rows generalizing sentence with
  | nil => rfl
  | cons row rest ih =>
    cases hbest : best? exceeds row with
    | none =>
      simp only [singleFrom, hbest]
      rfl
    | some p =>
      obtain ⟨class_, score⟩ := p
      rw [singleFrom_cons hbest, singleFrom_cons hbest, labelOf_add, Nat.add_right_comm, ih]
      cases labelOf table sentence class_ score with
      | error e => rfl
      | ok l => cases singleFrom exceeds table (sentence + 1) rest <;> rfl

theorem singleFrom_append (sentence : ℕ) (first second : List (List σ)) :
    singleFrom exceeds table sentence (first ++ second) =
      (singleFrom exceeds table sentence first).bind fun ls =>
        (singleFrom exceeds table sentence second).map fun ls' =>
          ls ++ ls'.map (Label.movedBy first.length) := by
  have hsecond : singleFrom exceeds table (sentence + first.length) second = _ :=
    singleFrom_add sentence first.length second
  rw [singleFrom_eq_mapM, List.zipIdx_append, mapM_append_eq, ← singleFrom_eq_mapM, ← singleFrom_eq_mapM,
    hsecond]
  cases singleFrom exceeds table sentence first with
  | error e => rfl
  | ok ls => cases singleFrom exceeds table sentence second <;> rfl

theorem single_of_rows {α : Type} {softmax : List α → List σ} {rows : List (List α)} (hne : rows ≠ [])
    (hrows : ∀ row ∈ rows, row ≠ []) :
    single softmax exceeds table rows = singleFrom exceeds table 0 (rows.map softmax) := by
  have hfull : rows.any List.isEmpty = false := by simpa using hrows
  rw [single, if_neg (by simpa using hne), if_neg (by simp [hfull])]

end Decoding

namespace Facade

/-- The class is the first of those with the largest logit of the row. -/
def Leads (row : List Float32) (k : ℕ) : Prop :=
  ∃ x, row[k]? = some x ∧ ∀ (j : ℕ) y, row[j]? = some y → y ≤ x ∧ (j < k → y < x)

/-- Only one class leads: of two, neither could come first. -/
theorem Leads.unique {row : List Float32} {k k' : ℕ} (h : Leads row k) (h' : Leads row k')
    (hnumbers : ∀ x ∈ row, x.isNaN = false) : k = k' := by
  obtain ⟨x, hx, hlargest⟩ := h
  obtain ⟨x', hx', hlargest'⟩ := h'
  have hnumber := hnumbers x (List.mem_of_getElem? hx)
  have hnumber' := hnumbers x' (List.mem_of_getElem? hx')
  have hle := (Score.le32_iff_place hnumber' hnumber).1 (hlargest k' x' hx').1
  have hle' := (Score.le32_iff_place hnumber hnumber').1 (hlargest' k x hx).1
  by_contra hne
  rcases Nat.lt_or_gt_of_ne hne with hlt | hgt
  · exact not_lt.2 hle ((Score.lt32_iff_place hnumber hnumber').1 ((hlargest' k x hx).2 hlt))
  · exact not_lt.2 hle' ((Score.lt32_iff_place hnumber' hnumber).1 ((hlargest k' x' hx').2 hgt))

section
variable {row : List Float32} (hfinite : ∀ x ∈ row, x.isFinite = true) (hkeeps : Score.KeepsOrder row)
include hfinite hkeeps

/-- The winner of a row leads it. -/
theorem leads_of_winner {k : ℕ} (h : winner row = some k) : Leads row k := by
  have hnumbers : ∀ x ∈ row, x.isNaN = false := fun x hx => Score.isNaN_of_isFinite (hfinite x hx)
  have hk : k < row.length := lt_of_winner h
  have hx := List.getElem?_eq_getElem hk
  have hlargest := place_le_of_winner hnumbers hkeeps h hx
  refine ⟨row[k], hx, fun j y hy => ?_⟩
  have hmem := List.mem_of_getElem? hy
  have hnumber := hnumbers row[k] (List.getElem_mem hk)
  refine ⟨(Score.le32_iff_place (hnumbers y hmem) hnumber).2 (hlargest y hmem), fun hj => ?_⟩
  -- an earlier class has a smaller probability, and so a smaller logit
  obtain ⟨⟨k, s⟩, hbest, rfl⟩ := Option.map_eq_some_iff.1 h
  have hj' : j < (Score.softmax32 row).length := by
    rw [Score.length_softmax32]
    omega
  have hq := List.getElem?_eq_getElem hj'
  have hexceeds := Decoding.exceeds_of_best? hbest j hj _ hq
  have hs : s.isNaN = false := Score.isNaN_of_isFinite
    (Score.isFinite_softmax32 hfinite s (List.mem_of_getElem? (Decoding.getElem?_best? hbest)))
  simp only [Score.exceeds32, hs, Bool.false_and, Bool.or_false, decide_eq_true_eq] at hexceeds
  exact (hkeeps j k y row[k] _ s hy hx hq (Decoding.getElem?_best? hbest)).1 hexceeds

/-- No probability of a row exceeds that of the class that leads it. -/
theorem widen_le_of_leads {k : ℕ} (h : Leads row k) {p : Float32} (hp : (Score.softmax32 row)[k]? = some p) :
    ∀ q ∈ Score.softmax32 row, Score.widen q ≤ Score.widen p := by
  obtain ⟨x, hx, hlargest⟩ := h
  intro q hq
  obtain ⟨j, hj, rfl⟩ := List.mem_iff_getElem.1 hq
  have hj' : j < row.length := Score.length_softmax32 row ▸ hj
  have hy := List.getElem?_eq_getElem hj'
  have hnumber : ∀ {i : ℕ} {y}, row[i]? = some y → y.isNaN = false := fun hy =>
    Score.isNaN_of_isFinite (hfinite _ (List.mem_of_getElem? hy))
  have hnumber' : ∀ r ∈ Score.softmax32 row, r.isNaN = false := fun r hr =>
    Score.isNaN_of_isFinite (Score.isFinite_softmax32 hfinite r hr)
  have hbelow : ¬ x < row[j] := by
    rw [Score.lt32_iff_place (hnumber hx) (hnumber hy), not_lt,
      ← Score.le32_iff_place (hnumber hy) (hnumber hx)]
    exact (hlargest j row[j] hy).1
  have hp' := hnumber' p (List.mem_of_getElem? hp)
  have hnot : ¬ p < (Score.softmax32 row)[j] := fun hless =>
    hbelow ((hkeeps k j x row[j] p _ hx hy hp (List.getElem?_eq_getElem hj)).1 hless)
  rw [Score.lt32_iff_place hp' (hnumber' _ hq), not_lt] at hnot
  exact Score.widen_le_widen (hnumber' _ hq) hp' hnot

end

/-- Rows that are decoded together are decoded as they are apart, those of the second batch further on. -/
theorem decodeSingle_append (table : LabelTable) {first second : Logits} (hfirst : first ≠ [])
    (hsecond : second ≠ []) (hrows : ∀ row ∈ first ++ second, row ≠ []) :
    decodeSingle table (first ++ second) = (decodeSingle table first).bind fun ls =>
      (decodeSingle table second).map fun ls' => ls ++ ls'.map (Label.movedBy first.length) := by
  have hrows' := List.forall_mem_append.1 hrows
  have htogether : first ++ second ≠ [] := List.append_ne_nil_of_left_ne_nil hfirst second
  simp only [decodeSingle, Decoding.single_of_rows hfirst hrows'.1, Decoding.single_of_rows hsecond hrows'.2,
    Decoding.single_of_rows htogether hrows, List.map_append, Decoding.singleFrom_append, List.length_map]
  cases Decoding.singleFrom Score.exceeds32 table 0 (first.map Score.softmax32) with
  | error e => rfl
  | ok ls =>
    cases Decoding.singleFrom Score.exceeds32 table 0 (second.map Score.softmax32) with
    | error e => rfl
    | ok ls' =>
      change Except.ok ((ls ++ ls'.map (Label.movedBy first.length)).map _) = Except.ok (ls.map _ ++ _)
      rw [List.map_append, List.map_map, List.map_map]
      rfl

/-- The label of a row: the class that leads it, with its text and its probability, which no other of the
row exceeds, and the place of the row. -/
structure NamesLeader (table : LabelTable) (i : ℕ) (row : List Float32) (l : Label Float) : Prop where
  sentence : l.sentence = i
  text : Entries.get? l.id table = some l.text
  leader : ∃ (k : ℕ) (p : Float32), l.id = k ∧ Leads row k ∧ (Score.softmax32 row)[k]? = some p ∧
    l.score = Score.widen p
  best : ∀ q ∈ Score.softmax32 row, Score.widen q ≤ l.score

theorem namesLeader_of_labelOfRow {table : LabelTable} {i : ℕ} {row : List Float32}
    (hfinite : ∀ x ∈ row, x.isFinite = true) (hkeeps : Score.KeepsOrder row) {l : Label Float32}
    (h : Decoding.labelOfRow Score.exceeds32 table i (Score.softmax32 row) = .ok l) :
    NamesLeader table i row ⟨l.text, Score.widen l.score, l.id, l.sentence⟩ := by
  obtain ⟨k, hbest, hid, htext, hsentence⟩ := Decoding.exists_best?_of_labelOfRow h
  have hp := Decoding.getElem?_best? hbest
  have hleads : Leads row k := leads_of_winner hfinite hkeeps (by rw [winner, hbest]; rfl)
  exact ⟨hsentence, htext, ⟨k, l.score, hid, hleads, hp, rfl⟩, widen_le_of_leads hfinite hkeeps hleads hp⟩

/-- A matrix of finite logits with at least one row and one class, in whose rows the probabilities are in
the order of the logits. -/
structure Orderly (logits : Logits) (classes : ℕ) : Prop where
  rows_ne_nil : logits ≠ []
  classes_pos : 0 < classes
  width : ∀ row ∈ logits, row.length = classes
  finite : ∀ row ∈ logits, ∀ x ∈ row, x.isFinite = true
  keepsOrder : ∀ row ∈ logits, Score.KeepsOrder row

def LeaderLabelled (table : LabelTable) (row : List Float32) : Prop :=
  ∀ k, Leads row k → (k : Int) ∈ Entries.keys table

namespace Orderly

variable {logits : Logits} {classes : ℕ} (h : Orderly logits classes)
include h

theorem ne_nil {row : List Float32} (hrow : row ∈ logits) : row ≠ [] := by
  rw [← List.length_pos_iff, h.width row hrow]
  exact h.classes_pos

/-- Every row has a class that leads it. -/
theorem exists_leads {row : List Float32} (hrow : row ∈ logits) : ∃ k, Leads row k ∧ winner row = some k := by
  cases hbest : Decoding.best? Score.exceeds32 (Score.softmax32 row) with
  | none =>
    have hnil := (Decoding.best?_eq_none_iff _ _).1 hbest
    rw [← List.length_eq_zero_iff, Score.length_softmax32, List.length_eq_zero_iff] at hnil
    exact absurd hnil (h.ne_nil hrow)
  | some p =>
    have hwinner : winner row = some p.1 := by rw [winner, hbest]; rfl
    exact ⟨p.1, leads_of_winner (h.finite row hrow) (h.keepsOrder row hrow) hwinner, hwinner⟩

theorem hasLabel_iff {table : LabelTable} {row : List Float32} (hrow : row ∈ logits) :
    HasLabel table row ↔ LeaderLabelled table row := by
  obtain ⟨k, hleads, hwinner⟩ := h.exists_leads hrow
  have hnumbers : ∀ x ∈ row, x.isNaN = false := fun x hx => Score.isNaN_of_isFinite (h.finite row hrow x hx)
  constructor
  · intro hlabel k' hleads'
    obtain ⟨j, hj, hmem⟩ := hlabel
    obtain rfl : k = j := Option.some.inj (hwinner.symm.trans hj)
    rwa [hleads'.unique hleads hnumbers]
  · intro hlabelled
    exact ⟨k, hwinner, hlabelled k hleads⟩

end Orderly

section
variable {τ : Type} {m : Facade τ} {texts : List τ} {logits : Logits} {classes : ℕ}

/-- Single-label classification is exact. Over an orderly matrix of logits each row is given, at its place,
the label of the first class with its largest logit, if all these classes have labels; the score is the
probability of the class, and no probability of the row exceeds it. Otherwise the first row whose class has
no label decides the failure. Logits that are those of two batches, one after the other, are given the labels
of the first batch and then those of the second, further on by the rows of the first. -/
theorem predict_exact (hne : texts ≠ []) (hforward : m.forward texts = .ok logits)
    (h : Orderly logits classes) :
    ((∀ row ∈ logits, LeaderLabelled m.labels row) →
      ∃ labels, m.predict texts = .ok labels ∧ labels.length = logits.length ∧
        ∀ (i : ℕ) l, labels[i]? = some l →
          ∃ row, logits[i]? = some row ∧ NamesLeader m.labels i row l) ∧
    ((¬ ∀ row ∈ logits, LeaderLabelled m.labels row) →
      ∃ (i k : ℕ) (row : List Float32), logits[i]? = some row ∧ Leads row k ∧
        (k : Int) ∉ Entries.keys m.labels ∧
        (∀ j < i, ∀ row', logits[j]? = some row' → LeaderLabelled m.labels row') ∧
        m.predict texts = .error (noLabelFailure k)) ∧
    ∀ (texts₁ texts₂ : List τ) (first second : Logits), texts₁ ≠ [] → texts₂ ≠ [] →
      m.forward texts₁ = .ok first → m.forward texts₂ = .ok second → first ≠ [] → second ≠ [] →
      logits = first ++ second →
      m.predict texts = (m.predict texts₁).bind fun ls =>
        (m.predict texts₂).map fun ls' => ls ++ ls'.map (Label.movedBy first.length) := by
  have hdecode : m.predict texts = decodeSingle m.labels logits := by
    rw [predict_eq_bind hne, hforward]
    rfl
  refine ⟨fun hlabelled => ?_, fun hunlabelled => ?_, ?_⟩
  · have hlabels : ∀ row ∈ logits, HasLabel m.labels row := fun row hrow =>
      (h.hasLabel_iff hrow).2 (hlabelled row hrow)
    obtain ⟨labels, hok, -⟩ := decodeSingle_of_hasLabel h.rows_ne_nil hlabels
    obtain ⟨hlength, hplaces⟩ := labelOfRow_of_decodeSingle hok
    refine ⟨labels, hdecode.trans hok, hlength, fun i l hl => ?_⟩
    obtain ⟨row, narrow, hrow, hlabel, rfl⟩ := hplaces i l hl
    have hmem := List.mem_of_getElem? hrow
    exact ⟨row, hrow, namesLeader_of_labelOfRow (h.finite row hmem) (h.keepsOrder row hmem) hlabel⟩
  · obtain ⟨before, row, after, rfl, hbefore, hfails⟩ := exists_first_of_not_forall hunlabelled
    have hmem : row ∈ before ++ row :: after := List.mem_append_right before List.mem_cons_self
    have hearlier : ∀ row' ∈ before, HasLabel m.labels row' := fun row' hrow' =>
      (h.hasLabel_iff (List.mem_append_left _ hrow')).2 (hbefore row' hrow')
    obtain ⟨k, hleads, hwinner⟩ := h.exists_leads hmem
    have hk : (k : Int) ∉ Entries.keys m.labels := fun hk =>
      hfails ((h.hasLabel_iff hmem).1 ⟨k, hwinner, hk⟩)
    refine ⟨before.length, k, row, by simp, hleads, hk, fun j hj row' hrow' => ?_,
      hdecode.trans (decodeSingle_of_first_unlabelled h.width hearlier hwinner hk)⟩
    rw [List.getElem?_append_left hj] at hrow'
    exact hbefore row' (List.mem_of_getElem? hrow')
  · intro texts₁ texts₂ first second hne₁ hne₂ hforward₁ hforward₂ hfirst hsecond hlogits
    have hrows : ∀ row ∈ first ++ second, row ≠ [] := fun row hrow => h.ne_nil (hlogits ▸ hrow)
    rw [hdecode, hlogits, predict_eq_bind hne₁, predict_eq_bind hne₂, hforward₁, hforward₂]
    exact decodeSingle_append m.labels hfirst hsecond hrows

end

theorem orderly_tied : Orderly tied 3 where
  rows_ne_nil := List.cons_ne_nil _ _
  classes_pos := by decide
  width := by decide +kernel
  finite := by decide +kernel
  keepsOrder := by decide +kernel

theorem leads_fine {k : ℕ} : Leads (tiedRow "fine") k ↔ k = 1 := by
  have hone : Leads (tiedRow "fine") 1 :=
    leads_of_winner (by decide +kernel) (by decide +kernel) (by decide +kernel)
  exact ⟨fun h => h.unique hone (by decide +kernel), fun h => h ▸ hone⟩

theorem leads_dull {k : ℕ} : Leads (tiedRow "dull") k ↔ k = 0 := by
  have hzero : Leads (tiedRow "dull") 0 :=
    leads_of_winner (by decide +kernel) (by decide +kernel) (by decide +kernel)
  exact ⟨fun h => h.unique hzero (by decide +kernel), fun h => h ▸ hzero⟩

/-- Of the classes that share the largest logit the first is taken, so that the third class needs no label;
of two rows without a label the first fails; and each text alone is given the label it has beside the other. -/
theorem predict_exact_of_tied :
    Orderly tied 3 ∧
    (∃ a b, (tiedFacade [(0, .str "no"), (1, .str "yes")]).predict ["fine", "dull"] = .ok [a, b] ∧
      a.id = 1 ∧ a.sentence = 0 ∧ b.id = 0 ∧ b.sentence = 1) ∧
    (tiedFacade []).predict ["fine", "dull"] = .error (noLabelFailure 1) ∧
    (tiedFacade []).predict ["fine", "dull"] = ((tiedFacade []).predict ["fine"]).bind fun ls =>
      ((tiedFacade []).predict ["dull"]).map fun ls' => ls ++ ls'.map (Label.movedBy 1) := by
  have hne : ["fine", "dull"] ≠ [] := List.cons_ne_nil _ _
  obtain ⟨hlabelled, -, -⟩ :=
    predict_exact (m := tiedFacade [(0, .str "no"), (1, .str "yes")]) hne rfl orderly_tied
  obtain ⟨-, hunlabelled, hstacked⟩ := predict_exact (m := tiedFacade []) hne rfl orderly_tied
  refine ⟨orderly_tied, ?_, ?_, hstacked ["fine"] ["dull"] [tiedRow "fine"] [tiedRow "dull"]
    (List.cons_ne_nil _ _) (List.cons_ne_nil _ _) rfl rfl (List.cons_ne_nil _ _) (List.cons_ne_nil _ _) rfl⟩
  · have hleaders : ∀ row ∈ tied, LeaderLabelled [(0, .str "no"), (1, .str "yes")] row := by
      intro row hrow k hk
      rcases List.mem_pair.1 hrow with rfl | rfl
      · obtain rfl := leads_fine.1 hk
        decide
      · obtain rfl := leads_dull.1 hk
        decide
    obtain ⟨labels, hok, hlength, hplaces⟩ := hlabelled hleaders
    obtain ⟨a, b, rfl⟩ := List.length_eq_two.1 hlength
    obtain ⟨row, hrow, ha⟩ := hplaces 0 a rfl
    obtain rfl : tiedRow "fine" = row := Option.some.inj hrow
    obtain ⟨row, hrow, hb⟩ := hplaces 1 b rfl
    obtain rfl : tiedRow "dull" = row := Option.some.inj hrow
    obtain ⟨k, -, hak, hleads, -⟩ := ha.leader
    obtain rfl := leads_fine.1 hleads
    obtain ⟨k, -, hbk, hleads, -⟩ := hb.leader
    obtain rfl := leads_dull.1 hleads
    exact ⟨a, b, hok, hak, ha.sentence, hbk, hb.sentence⟩
  · have hnone : ¬ LeaderLabelled [] (tiedRow "fine") := fun h => List.not_mem_nil (h 1 (leads_fine.2 rfl))
    obtain ⟨i, k, row, hrow, hleads, -, hfirst, hfails⟩ :=
      hunlabelled fun h => hnone (h _ List.mem_cons_self)
    obtain rfl : i = 0 := by
      by_contra hi
      exact hnone (hfirst 0 (by omega) _ rfl)
    obtain rfl : tiedRow "fine" = row := Option.some.inj hrow
    obtain rfl := leads_fine.1 hleads
    exact hfails

end Facade

end SequenceClassification
