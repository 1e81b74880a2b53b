import SequenceClassification.Proofs.Decoding.Naming

/-!
The winning classes of rows of logits. Single-label decoding finds the id of each row by itself: the class
of the best probability, which must have a label. Main statement: where every text has logits of its own,
the ids of a list of texts are found text by text, and the first text whose winner has no label decides the
failure.
-/
namespace SequenceClassification

namespace Decoding

variable {σ : Type} {exceeds : σ → σ → Bool} {table : LabelTable}

def idOfRow (exceeds : σ → σ → Bool) (table : LabelTable) (row : List σ) : Except Fault Int :=
  match best? exceeds row with
  | none => .error (.noClasses 1)
  | some (class_, _) => if Entries.has (class_ : Int) table then .ok class_ else .error (.noLabel class_)

theorem id_labelOf (table : LabelTable) (sentence class_ : Nat) (score : σ) :
    (labelOf table sentence class_ score).map Label.id =
      if Entries.has (class_ : Int) table then .ok (class_ : Int) else .error (.noLabel class_) := by
  unfold labelOf Entries.has
  cases Entries.get? (class_ : Int) table <;> rfl

/-- The ids do not depend on where the numbering of the rows begins: each row has its own. -/
theorem ids_singleFrom (sentence : Nat) (rows : List (List σ)) :
    (singleFrom exceeds table sentence rows).map (List.map Label.id) =
      rows.mapM (idOfRow exceeds table) := by
  induction rows generalizing sentence with
  | nil => rfl
  | cons row rest ih =>
    rw [mapM_cons_eq, ← ih (sentence + 1)]
    cases hbest : best? exceeds row with
    | none => simp only [singleFrom, idOfRow, hbest]; rfl
    | some p =>
      obtain ⟨class_, score⟩ := p
      have hid : idOfRow exceeds table row = (labelOf table sentence class_ score).map Label.id := by
        rw [id_labelOf]
        simp only [idOfRow, hbest]
      rw [singleFrom_cons hbest, hid]
      cases labelOf table sentence class_ score with
      | error e => rfl
      | ok l => cases singleFrom exceeds table (sentence + 1) rest <;> rfl

def labelOfRow (exceeds : σ → σ → Bool) (table : LabelTable) (sentence : Nat) (row : List σ) :
    Except Fault (Label σ) :=
  match best? exceeds row with
  | none => .error (.noClasses 1)
  | some (class_, score) => labelOf table sentence class_ score

/-- A label is that of the best column of its row. -/
theorem exists_best?_of_labelOfRow {sentence : Nat} {row : List σ} {l : Label σ}
    (h : labelOfRow exceeds table sentence row = .ok l) :
    ∃ k : Nat, best? exceeds row = some (k, l.score) ∧ l.id = k ∧ Entries.get? l.id table = some l.text ∧
      l.sentence = sentence := by
  unfold labelOfRow labelOf at h
  split at h
  · cases h
  · rename_i k score hbest
    split at h
    · rename_i text htext
      cases h
      exact ⟨k, hbest, rfl, htext, rfl⟩
    · cases h

/-- Each row is given its label at its place. -/
theorem singleFrom_eq_mapM (sentence : Nat) (rows : List (List σ)) :
    singleFrom exceeds table sentence rows =
      (rows.zipIdx sentence).mapM fun p => labelOfRow exceeds table p.2 p.1 := by
  induction rows generalizing sentence with
  | nil => rfl
  | cons row rest ih =>
    rw [List.zipIdx_cons, mapM_cons_eq, ← ih (sentence + 1)]
    cases hbest : best? exceeds row with
    | none => simp only [singleFrom, labelOfRow, hbest]; rfl
    | some p =>
      rw [singleFrom_cons hbest]
      simp only [labelOfRow, hbest]

/-- If single-label decoding succeeds, each row is given its label at its place. -/
theorem labelOfRow_of_single {α : Type} {softmax : List α → List σ} {rows : List (List α)}
    {labels : List (Label σ)} (h : single softmax exceeds table rows = .ok labels) :
    labels.length = rows.length ∧ ∀ (i : Nat) l, labels[i]? = some l →
      ∃ row, rows[i]? = some row ∧ labelOfRow exceeds table i (softmax row) = .ok l := by
  unfold single at h
  split at h
  · cases h
  · split at h
    · cases h
    · rw [singleFrom_eq_mapM] at h
      refine ⟨?_, fun i l hl => ?_⟩
      · rw [← (mapM_eq_ok_iff.1 h).length_eq, List.length_zipIdx, List.length_map]
      · obtain ⟨p, hp, hlabel⟩ := getElem?_of_mapM_zipIdx h hl
        rw [List.getElem?_map, Option.map_eq_some_iff] at hp
        obtain ⟨row, hrow, rfl⟩ := hp
        exact ⟨row, hrow, hlabel⟩

end Decoding

namespace Facade

variable {τ : Type}

/-- The class of the best probability of a row of logits, the first of several. -/
def winner (logits : List Float32) : Option Nat :=
  (Decoding.best? Score.exceeds32 (Score.softmax32 logits)).map Prod.fst

def idOfLogits (table : LabelTable) (logits : List Float32) : Except Failure Int :=
  (Decoding.idOfRow Score.exceeds32 table (Score.softmax32 logits)).mapError Decoding.Fault.failure

def HasLabel (table : LabelTable) (logits : List Float32) : Prop :=
  ∃ k, winner logits = some k ∧ (k : Int) ∈ Entries.keys table

/-- A table that covers the classes has a label for every winner. -/
theorem hasLabel_of_covers {table : LabelTable} {count : Nat} (h : table.Covers count)
    {logits : List Float32} (hne : logits ≠ []) (hlength : logits.length ≤ count) :
    HasLabel table logits := by
  have hrow : Score.softmax32 logits ≠ [] := by
    rw [← List.length_pos_iff, Score.length_softmax32, List.length_pos_iff]
    exact hne
  rcases hbest : Decoding.best? Score.exceeds32 (Score.softmax32 logits) with _ | ⟨k, score⟩
  · exact absurd ((Decoding.best?_eq_none_iff _ _).1 hbest) hrow
  · have hlt := Decoding.best?_lt hbest
    rw [Score.length_softmax32] at hlt
    exact ⟨k, by rw [winner, hbest]; rfl, h k (by omega)⟩

theorem idOfLogits_of_mem {table : LabelTable} {logits : List Float32} {k : Nat}
    (hwinner : winner logits = some k) (hk : (k : Int) ∈ Entries.keys table) :
    idOfLogits table logits = .ok k := by
  obtain ⟨⟨class_, score⟩, hbest, rfl⟩ := Option.map_eq_some_iff.1 hwinner
  have hhas : Entries.has (class_ : Int) table = true := (Entries.get?_isSome_iff _ _).2 hk
  simp only [idOfLogits, Decoding.idOfRow, hbest, hhas, if_true]
  rfl

theorem idOfLogits_of_not_mem {table : LabelTable} {logits : List Float32} {k : Nat}
    (hwinner : winner logits = some k) (hk : (k : Int) ∉ Entries.keys table) :
    idOfLogits table logits = .error (noLabelFailure k) := by
  obtain ⟨⟨class_, score⟩, hbest, rfl⟩ := Option.map_eq_some_iff.1 hwinner
  have hhas : ¬ Entries.has (class_ : Int) table = true := fun h =>
    hk ((Entries.get?_isSome_iff _ _).1 h)
  simp only [idOfLogits, Decoding.idOfRow, hbest, hhas]
  rfl

/-- Every text has a row of logits of its own, whatever it is classified together with; as logits are a
matrix, all rows are equally wide. -/
structure Separate (m : Facade τ) (row : τ → List Float32) (classes : Nat) : Prop where
  forward : ∀ texts, texts ≠ [] → m.forward texts = .ok (texts.map row)
  width : ∀ text, (row text).length = classes

variable {m : Facade τ} {row : τ → List Float32} {classes : Nat}

/-- Decoding rows of one width finds the id of each of them. -/
theorem ids_decodeSingle (table : LabelTable) {logits : Logits} (hne : logits ≠ [])
    (hwidth : ∀ r ∈ logits, r.length = classes) :
    (decodeSingle table logits).map (List.map Label.id) = logits.mapM (idOfLogits table) := by
  have hrows : (Decoding.singleFrom Score.exceeds32 table 0 (logits.map Score.softmax32)).map
      (List.map Label.id) =
      logits.mapM fun r => Decoding.idOfRow Score.exceeds32 table (Score.softmax32 r) := by
    rw [Decoding.ids_singleFrom, List.mapM_map]
    rfl
  have hsingle : (Decoding.single Score.softmax32 Score.exceeds32 table logits).map
      (List.map Label.id) =
      logits.mapM fun r => Decoding.idOfRow Score.exceeds32 table (Score.softmax32 r) := by
    unfold Decoding.single
    rw [if_neg (by simpa using hne)]
    split
    · -- one empty row means that all are empty, and then the first one fails as well
      rename_i hany
      obtain ⟨r, hr, hempty⟩ := List.any_eq_true.1 hany
      have hzero : classes = 0 := by
        rw [← hwidth r hr, List.isEmpty_iff.1 hempty, List.length_nil]
      obtain ⟨first, rest, rfl⟩ := List.exists_cons_of_ne_nil hne
      have hfirst : first = [] := by
        rw [← List.length_eq_zero_iff, hwidth first (List.mem_cons_self ..), hzero]
      rw [mapM_cons_eq, hfirst]
      rfl
    · exact hrows
  unfold idOfLogits
  rw [← mapM_mapError, ← hsingle]
  unfold decodeSingle
  cases Decoding.single Score.softmax32 Score.exceeds32 table logits with
  | error e => rfl
  | ok labels => simp [Except.map, Except.mapError, Function.comp_def]

/-- The label of the winner of a row, with the text of the table and the place of the row. -/
structure NamesWinner (table : LabelTable) (sentence : Nat) (logits : List Float32) (l : Label Float) :
    Prop where
  winner : ∃ k : Nat, winner logits = some k ∧ l.id = k
  text : Entries.get? l.id table = some l.text
  sentence : l.sentence = sentence

theorem exists_labelOfRow {table : LabelTable} {logits : List Float32} (h : HasLabel table logits)
    (sentence : Nat) : ∃ l, Decoding.labelOfRow Score.exceeds32 table sentence
      (Score.softmax32 logits) = .ok l := by
  obtain ⟨k, hwinner, hk⟩ := h
  obtain ⟨⟨class_, score⟩, hbest, rfl⟩ := Option.map_eq_some_iff.1 hwinner
  obtain ⟨text, htext⟩ := Option.isSome_iff_exists.1 ((Entries.get?_isSome_iff _ _).2 hk)
  exact ⟨⟨text, score, class_, sentence⟩, by
    simp only [Decoding.labelOfRow, hbest, Decoding.labelOf, htext]⟩

theorem namesWinner_of_labelOfRow {table : LabelTable} {sentence : Nat} {logits : List Float32}
    {l : Label Float32} (h : Decoding.labelOfRow Score.exceeds32 table sentence
      (Score.softmax32 logits) = .ok l) :
    NamesWinner table sentence logits ⟨l.text, Score.widen l.score, l.id, l.sentence⟩ := by
  obtain ⟨k, hbest, hid, htext, hsentence⟩ := Decoding.exists_best?_of_labelOfRow h
  exact ⟨⟨k, by rw [winner, hbest]; rfl, hid⟩, htext, hsentence⟩

/-- The scores of a row are 32-bit values, and a label carries the 64-bit value that equals its score. -/
theorem labelOfRow_of_decodeSingle {table : LabelTable} {logits : Logits} {labels : List (Label Float)}
    (h : decodeSingle table logits = .ok labels) :
    labels.length = logits.length ∧ ∀ (i : Nat) l, labels[i]? = some l →
      ∃ r narrow, logits[i]? = some r ∧
        Decoding.labelOfRow Score.exceeds32 table i (Score.softmax32 r) = .ok narrow ∧
        l = ⟨narrow.text, Score.widen narrow.score, narrow.id, narrow.sentence⟩ := by
  unfold decodeSingle at h
  cases hsingle : Decoding.single Score.softmax32 Score.exceeds32 table logits with
  | error e =>
    rw [hsingle] at h
    cases h
  | ok found =>
    rw [hsingle] at h
    obtain rfl := Except.ok.inj h
    obtain ⟨hlength, hplaces⟩ := Decoding.labelOfRow_of_single hsingle
    refine ⟨by rw [List.length_map, hlength], fun i l hl => ?_⟩
    rw [List.getElem?_map, Option.map_eq_some_iff] at hl
    obtain ⟨narrow, hnarrow, rfl⟩ := hl
    obtain ⟨r, hr, hlabel⟩ := hplaces i narrow hnarrow
    exact ⟨r, narrow, hr, hlabel, rfl⟩

theorem HasLabel.ne_nil {table : LabelTable} {logits : List Float32} (h : HasLabel table logits) :
    logits ≠ [] := by
  rintro rfl
  obtain ⟨k, hwinner, -⟩ := h
  cases hwinner

/-- Where every winner has a label, each row of logits is given the label of its winner. -/
theorem decodeSingle_of_hasLabel {table : LabelTable} {logits : Logits} (hne : logits ≠ [])
    (h : ∀ r ∈ logits, HasLabel table r) :
    ∃ labels, decodeSingle table logits = .ok labels ∧ labels.length = logits.length ∧
      ∀ (i : Nat) l, labels[i]? = some l → ∃ r, logits[i]? = some r ∧ NamesWinner table i r l := by
  have hrow : ∀ (i : Nat) p, (logits.map Score.softmax32)[i]? = some p →
      ∃ r, logits[i]? = some r ∧ Score.softmax32 r = p := by
    intro i p hp
    rwa [List.getElem?_map, Option.map_eq_some_iff] at hp
  have hlabels : ∀ p ∈ (logits.map Score.softmax32).zipIdx, ∃ l,
      Decoding.labelOfRow Score.exceeds32 table p.2 p.1 = .ok l := by
    rintro ⟨p, i⟩ hp
    obtain ⟨r, hr, rfl⟩ := hrow i p (List.mk_mem_zipIdx_iff_getElem?.1 hp)
    exact exists_labelOfRow (h r (List.mem_of_getElem? hr)) i
  obtain ⟨labels, hall⟩ := exists_mapM_eq_ok hlabels
  have hfull : logits.any List.isEmpty = false := by
    simpa using fun r hr => (h r hr).ne_nil
  have hsingle : Decoding.single Score.softmax32 Score.exceeds32 table logits = .ok labels := by
    rw [Decoding.single, if_neg (by simpa using hne), if_neg (by simp [hfull]),
      Decoding.singleFrom_eq_mapM, hall]
  have hdecode : decodeSingle table logits = .ok (labels.map fun l =>
      ⟨l.text, Score.widen l.score, l.id, l.sentence⟩) := by rw [decodeSingle, hsingle]
  obtain ⟨hlength, hplaces⟩ := labelOfRow_of_decodeSingle hdecode
  refine ⟨_, hdecode, hlength, fun i l hl => ?_⟩
  obtain ⟨r, narrow, hr, hlabel, rfl⟩ := hplaces i l hl
  exact ⟨r, hr, namesWinner_of_labelOfRow hlabel⟩

theorem ids_predict (hm : m.Separate row classes) (texts : List τ) :
    (m.predict texts).map (List.map Label.id) = texts.mapM fun t => idOfLogits m.labels (row t) := by
  unfold predict
  split
  · rename_i hempty
    rw [List.isEmpty_iff.1 hempty]
    rfl
  · rename_i hne
    have hne' : texts ≠ [] := by simpa using hne
    have hwidth : ∀ r ∈ texts.map row, r.length = classes := by
      intro r hr
      obtain ⟨t, -, rfl⟩ := List.mem_map.1 hr
      exact hm.width t
    rw [hm.forward texts hne']
    have hids := ids_decodeSingle m.labels (by simpa using hne') hwidth
    rw [List.mapM_map] at hids
    exact hids

/-- Where every winner has a label, classification returns. -/
theorem exists_predict_eq_ok (hm : m.Separate row classes) {texts : List τ}
    (h : ∀ t ∈ texts, HasLabel m.labels (row t)) : ∃ labels, m.predict texts = .ok labels := by
  have hids : ∀ t ∈ texts, ∃ id, idOfLogits m.labels (row t) = .ok id := by
    intro t ht
    obtain ⟨k, hwinner, hk⟩ := h t ht
    exact ⟨k, idOfLogits_of_mem hwinner hk⟩
  obtain ⟨ids, hall⟩ := exists_mapM_eq_ok hids
  rw [← ids_predict hm] at hall
  obtain ⟨labels, hlabels, -⟩ := map_eq_ok hall
  exact ⟨labels, hlabels⟩

/-- The first row whose winner has no label decides the failure. -/
theorem decodeSingle_of_first_unlabelled {table : LabelTable} {before after : Logits}
    {r : List Float32} (hwidth : ∀ r' ∈ before ++ r :: after, r'.length = classes)
    (hbefore : ∀ r' ∈ before, HasLabel table r') {k : Nat} (hwinner : winner r = some k)
    (hk : (k : Int) ∉ Entries.keys table) :
    decodeSingle table (before ++ r :: after) = .error (noLabelFailure k) := by
  have hids := ids_decodeSingle table (by simp) hwidth
  have hearlier : ∀ r' ∈ before, ∃ id, idOfLogits table r' = .ok id := by
    intro r' hr'
    obtain ⟨j, hj, hmem⟩ := hbefore r' hr'
    exact ⟨j, idOfLogits_of_mem hj hmem⟩
  rw [mapM_of_first_error hearlier (idOfLogits_of_not_mem hwinner hk)] at hids
  cases hp : decodeSingle table (before ++ r :: after) with
  | error e => rw [hp] at hids; rw [Except.error.inj hids]
  | ok labels => rw [hp] at hids; cases hids

/-- The first text whose winner has no label decides the failure. -/
theorem predict_of_first_unlabelled (hm : m.Separate row classes) {before after : List τ} {t : τ}
    {k : Nat} (hbefore : ∀ u ∈ before, HasLabel m.labels (row u))
    (hwinner : winner (row t) = some k) (hk : (k : Int) ∉ Entries.keys m.labels) :
    m.predict (before ++ t :: after) = .error (noLabelFailure k) := by
  have hwidth : ∀ r ∈ before.map row ++ row t :: after.map row, r.length = classes := by
    intro r hr
    rw [← List.map_cons, ← List.map_append] at hr
    obtain ⟨u, -, rfl⟩ := List.mem_map.1 hr
    exact hm.width u
  rw [predict, if_neg (by simp), hm.forward _ (by simp), List.map_append, List.map_cons]
  exact decodeSingle_of_first_unlabelled hwidth (List.forall_mem_map.2 hbefore) hwinner hk

end Facade

end SequenceClassification
