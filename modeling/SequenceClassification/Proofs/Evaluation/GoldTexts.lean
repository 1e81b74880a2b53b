import SequenceClassification.Evaluation.GoldLabel
import SequenceClassification.Proofs.Lookup
import SequenceClassification.Proofs.Outcome

/-!
Gold labels that are label texts. Over distinct label texts the index gives each text its own class id; but
a text made of digits is never looked up, it is a numeral. Main statement: label texts are mapped back to
their class ids exactly if those of digits are numerals of their ids and the ids are in range.
-/
namespace SequenceClassification

/-- The label texts are strings, and no two of them are equal. -/
structure LabelTable.DistinctTexts (table : LabelTable) : Prop where
  strings : ∀ e ∈ table, ∃ s, e.2 = .str s
  nodup : (table.map Prod.snd).Nodup

namespace Evaluation

/-- If the text is made of digits, it is a numeral of the class id. -/
def DigitsAgree (id : Int) (text : String) : Prop :=
  Text.isAllDigits text = true → Decimal.readInteger text = .ok id

instance (id : Int) (text : String) : Decidable (DigitsAgree id text) := by
  unfold DigitsAgree
  infer_instance

namespace TextIndex

theorem put_of_not_mem {s : String} {id : Int} {index : TextIndex}
    (hstrings : ∀ e ∈ index, ∃ t, e.1 = .str t) (hnew : Json.str s ∉ index.map Prod.fst) :
    put (.str s) id index = index ++ [(.str s, id)] := by
  induction index with
  | nil => rfl
  | cons e rest ih =>
    obtain ⟨text, i⟩ := e
    obtain ⟨t, rfl⟩ := hstrings _ List.mem_cons_self
    rw [List.map_cons, List.mem_cons, not_or] at hnew
    have hother : (Json.str t).same (.str s) = false := by
      simp only [Json.same, beq_eq_false_iff_ne]
      exact fun h => hnew.1 (by rw [h])
    simp only [put, hother, Bool.false_eq_true, if_false, List.cons_append]
    rw [ih (fun e he => hstrings e (List.mem_cons_of_mem _ he)) hnew.2]

/-- Entering distinct label texts keeps the entries so far, as every text is a new one. -/
theorem foldlM_enter {rest : LabelTable} {index : TextIndex} (hindex : ∀ e ∈ index, ∃ t, e.1 = .str t)
    (hrest : ∀ e ∈ rest, ∃ t, e.2 = .str t)
    (hnodup : (index.map Prod.fst ++ rest.map Prod.snd).Nodup) :
    rest.foldlM enter index = .ok (index ++ rest.map fun e => (e.2, e.1)) := by
  induction rest generalizing index with
  | nil => simp [pure, Except.pure]
  | cons e rest ih =>
    obtain ⟨id, text⟩ := e
    obtain ⟨s, rfl⟩ := hrest _ List.mem_cons_self
    rw [List.map_cons] at hnodup
    have hnew : Json.str s ∉ index.map Prod.fst := fun hs =>
      (List.nodup_append.1 hnodup).2.2 _ hs _ List.mem_cons_self rfl
    have henter : enter index (id, .str s) = .ok (index ++ [(.str s, id)]) := by
      rw [← put_of_not_mem hindex hnew]
      rfl
    -- the texts entered so far and those to come stay distinct together, which carries the induction
    have hindex' : ∀ e ∈ index ++ [(Json.str s, id)], ∃ t, e.1 = .str t := by
      intro e he
      rcases List.mem_append.1 he with he | he
      · exact hindex e he
      · exact ⟨s, by rw [List.mem_singleton.1 he]⟩
    have hnodup' : ((index ++ [(Json.str s, id)]).map Prod.fst ++ rest.map Prod.snd).Nodup := by
      simpa using hnodup
    rw [List.foldlM_cons, henter]
    change rest.foldlM enter (index ++ [(.str s, id)]) = _
    rw [ih hindex' (fun e he => hrest e (List.mem_cons_of_mem _ he)) hnodup', List.append_assoc]
    rfl

/-- The index of distinct label texts holds each of them with its class id. -/
theorem ofTable_of_distinct {table : LabelTable} (h : table.DistinctTexts) :
    ofTable table = .ok (table.map fun e => (e.2, e.1)) := by
  have hnodup : (([] : TextIndex).map Prod.fst ++ table.map Prod.snd).Nodup := by simpa using h.nodup
  exact foldlM_enter (fun e he => absurd he List.not_mem_nil) h.strings hnodup

theorem find?_of_distinct {table : LabelTable} (h : table.DistinctTexts) {id : Int} {s : String}
    (hmem : (id, Json.str s) ∈ table) :
    find? s (table.map fun e => (e.2, e.1)) = some id := by
  have hnodup := h.nodup
  clear h
  induction table with
  | nil => cases hmem
  | cons e rest ih =>
    obtain ⟨i, text⟩ := e
    rw [List.map_cons, List.nodup_cons] at hnodup
    rcases List.mem_cons.1 hmem with heq | hin
    · obtain ⟨rfl, rfl⟩ := Prod.mk.inj heq
      simp [find?, Json.str?]
    · have hother : text ≠ .str s := by
        rintro rfl
        exact hnodup.1 (List.mem_map.2 ⟨_, hin, rfl⟩)
      have hskip : (text.str? == some s) = false := by
        rw [beq_eq_false_iff_ne]
        intro hs
        cases text <;> simp_all [Json.str?]
      simpa [find?, hskip] using ih hin hnodup.2

end TextIndex

theorem idOfGold_text_iff {index : TextIndex} {id : Int} {s : String}
    (hfind : index.find? s = some id) :
    idOfGold index (.str s) = .ok id ↔ DigitsAgree id s := by
  unfold DigitsAgree
  cases hdigits : Text.isAllDigits s with
  | true =>
    rw [idOfGold_of_isAllDigits hdigits]
    cases Decimal.readInteger s <;> simp [Except.mapError]
  | false => simp [idOfGold, hdigits, hfind]

theorem goldIds_eq_bind {table : LabelTable} {index : TextIndex} (hindex : TextIndex.ofTable table = .ok index)
    (labels : List Json) : goldIds table labels = (labels.mapM (idOfGold index)).bind fun ids =>
      if ids.all isClassId then .ok ids else .error .idOutOfRange := by
  unfold goldIds
  rw [hindex]
  rfl

/-- Over a table that can be indexed, gold labels are mapped to ids exactly if each of them is, and every
id is in range. -/
theorem goldIds_eq_ok_iff {table : LabelTable} {index : TextIndex}
    (hindex : TextIndex.ofTable table = .ok index) {labels : List Json} {ids : List Int} :
    goldIds table labels = .ok ids ↔
      List.Forall₂ (fun label id => idOfGold index label = .ok id) labels ids ∧
        ∀ id ∈ ids, isClassId id = true := by
  rw [← mapM_eq_ok_iff, ← List.all_eq_true]
  rw [goldIds_eq_bind hindex]
  cases labels.mapM (idOfGold index) with
  | error e => simp [Except.bind]
  | ok found =>
    cases hall : found.all isClassId with
    | true =>
      simp only [Except.bind, hall, if_true, Except.ok.injEq]
      exact ⟨fun h => ⟨h, h ▸ hall⟩, fun h => h.1⟩
    | false =>
      simp only [Except.bind, hall, Bool.false_eq_true, if_false, Except.ok.injEq, reduceCtorEq,
        false_iff, not_and]
      intro h
      rw [← h, hall]
      decide

/-- Label texts of a table are mapped back to their class ids exactly if the ids are in range and no text
that is made of digits spells anything but its own id: a text of digits is never looked up. -/
theorem goldIds_texts_iff {table : LabelTable} (h : table.DistinctTexts) {picked : List (Int × String)}
    (hpicked : ∀ e ∈ picked, Entries.get? e.1 table = some (.str e.2)) :
    goldIds table (picked.map fun e => .str e.2) = .ok (picked.map Prod.fst) ↔
      ∀ e ∈ picked, isClassId e.1 = true ∧ DigitsAgree e.1 e.2 := by
  rw [goldIds_eq_ok_iff (TextIndex.ofTable_of_distinct h), List.forall₂_map_left_iff,
    List.forall₂_map_right_iff, List.forall₂_same, List.forall_mem_map]
  have hone : ∀ e ∈ picked, (idOfGold (table.map fun e => (e.2, e.1)) (.str e.2) = .ok e.1 ↔
      DigitsAgree e.1 e.2) := fun e he =>
    idOfGold_text_iff (TextIndex.find?_of_distinct h (Entries.mem_of_get? (hpicked e he)))
  constructor
  · rintro ⟨hids, hrange⟩ e he
    exact ⟨hrange e he, (hone e he).1 (hids e he)⟩
  · intro hall
    exact ⟨fun e he => (hone e he).2 (hall e he).2, fun e he => (hall e he).1⟩

/-- Label texts that are digits: a rating, a rating as a superscript, and one whose id is out of range. -/
def ratings : LabelTable := [(0, .str "1"), (1, .str "²"), (9223372036854775808, .str "many")]

theorem distinctTexts_ratings : ratings.DistinctTexts where
  strings := by
    intro e he
    simp only [ratings, List.mem_cons, List.not_mem_nil, or_false] at he
    rcases he with rfl | rfl | rfl <;> exact ⟨_, rfl⟩
  nodup := by simp [ratings]

/-- Distinct label texts alone are not mapped back: a text of digits is taken for another class id or for a
broken numeral, and an id may be out of range. -/
theorem goldIds_ratings :
    ratings.DistinctTexts ∧ Entries.get? 0 ratings = some (.str "1") ∧
    goldIds ratings [.str "1"] = .ok [1] ∧ Entries.get? 1 ratings = some (.str "²") ∧
    goldIds ratings [.str "²"] = .error (.badNumeral "²" .malformed) ∧
    Entries.get? 9223372036854775808 ratings = some (.str "many") ∧
    goldIds ratings [.str "many"] = .error .idOutOfRange := by
  have hmany : [Json.str "many"].mapM (idOfGold (ratings.map fun e => (e.2, e.1))) =
      .ok [9223372036854775808] := rfl
  have hlarge : ¬ [9223372036854775808].all isClassId = true := by decide
  refine ⟨distinctTexts_ratings, rfl, rfl, rfl, rfl, rfl, ?_⟩
  rw [goldIds_eq_bind (TextIndex.ofTable_of_distinct distinctTexts_ratings), hmany]
  simp only [Except.bind, if_neg hlarge]

/-- A label text of digits that spells its own id, beside a word and an empty text. -/
def ownNumeral : LabelTable := [(0, .str "no"), (7, .str "007"), (-1, .str "")]

theorem distinctTexts_ownNumeral : ownNumeral.DistinctTexts where
  strings := by
    intro e he
    simp only [ownNumeral, List.mem_cons, List.not_mem_nil, or_false] at he
    rcases he with rfl | rfl | rfl <;> exact ⟨_, rfl⟩
  nodup := by simp [ownNumeral]

theorem goldIds_texts_iff_of_ownNumeral :
    ownNumeral.DistinctTexts ∧ DigitsAgree 7 "007" ∧
    goldIds ownNumeral [.str "007", .str "", .str "no", .str "007"] = .ok [7, -1, 0, 7] := by
  have hpicked : ∀ e ∈ [((7 : Int), "007"), (-1, ""), (0, "no"), (7, "007")],
      Entries.get? e.1 ownNumeral = some (.str e.2) := by
    intro e he
    simp only [List.mem_cons, List.not_mem_nil, or_false] at he
    rcases he with rfl | rfl | rfl | rfl <;> rfl
  exact ⟨distinctTexts_ownNumeral, by decide,
    (goldIds_texts_iff distinctTexts_ownNumeral hpicked).2 (by decide)⟩

end Evaluation

end SequenceClassification
