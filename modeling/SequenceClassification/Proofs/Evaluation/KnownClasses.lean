import SequenceClassification.Proofs.Decimal.ExactValues
import SequenceClassification.Proofs.Decimal.Numerals
import SequenceClassification.Proofs.Evaluation.GoldTexts

/-!
Gold labels and the classes of the table. A text is looked up, and of equal label texts the last one has the
class; every other label stands for a class id by itself, whatever the table is. Main statement: which gold
labels are mapped to which ids, over every table and every list of labels, and when these ids are classes of
the table.
-/
namespace SequenceClassification

/-- The class is the last one of the table with the label text. -/
inductive LabelTable.LastWith (s : String) (id : Int) : LabelTable → Prop where
  | here {rest : LabelTable} (h : ∀ e ∈ rest, e.2 ≠ .str s) : LastWith s id ((id, .str s) :: rest)
  | there {e : Int × Json} {rest : LabelTable} (h : LastWith s id rest) : LastWith s id (e :: rest)

/-- The value can be a key: it is neither a list nor an object. -/
def Json.IsKey (v : Json) : Prop := (∀ items, v ≠ .arr items) ∧ ∀ fields, v ≠ .obj fields

/-- The label texts can be indexed. -/
def LabelTable.Indexed (table : LabelTable) : Prop := ∀ e ∈ table, e.2.IsKey

theorem LabelTable.LastWith.mem {s : String} {id : Int} {table : LabelTable} (h : LastWith s id table) :
    (id, Json.str s) ∈ table := by
  induction h with
  | here => exact List.mem_cons_self
  | there _ ih => exact List.mem_cons_of_mem _ ih

namespace Evaluation

/-- The gold label stands for the class id by itself: it is a number, a truth value as zero or one, a
floating-point value whose fraction is dropped, or a numeral. -/
inductive StandsAlone : Json → Int → Prop where
  | number {id : Int} : StandsAlone (.int id) id
  | truth {b : Bool} : StandsAlone (.bool b) (if b then 1 else 0)
  | float {x : Float} {q : ℚ} (h : Decimal.HasValue x q) : StandsAlone (.float x) (Decimal.wholePart q)
  | numeral {s : String} {n : Nat} (h : Decimal.IsNumeral s n) : StandsAlone (.str s) n

/-- The gold label has the class id: it is the label text of the class and not made of digits, or it stands
for the id by itself. -/
inductive HasId (table : LabelTable) : Json → Int → Prop where
  | text {s : String} {id : Int} (hword : Text.isAllDigits s = false) (h : table.LastWith s id) :
    HasId table (.str s) id
  | alone {label : Json} {id : Int} (h : StandsAlone label id) : HasId table label id

namespace TextIndex

theorem str?_eq_of_same {a b : Json} (h : a.same b = true) : a.str? = b.str? := by
  cases a <;> cases b <;> simp_all [Json.same, Json.str?, Json.wholeNumber?]

theorem same_of_str? {a b : Json} {s : String} (ha : a.str? = some s) (hb : b.str? = some s) :
    a.same b = true := by
  cases a <;> cases b <;> simp_all [Json.same, Json.str?]

theorem eq_str_of_str? {a : Json} {s : String} (h : a.str? = some s) : a = .str s := by
  cases a <;> simp_all [Json.str?]

variable {s : String} {id : Int} {index : TextIndex}

theorem find?_cons (s : String) (e : Json × Int) (index : TextIndex) :
    find? s (e :: index) = if e.1.str? = some s then some e.2 else find? s index := by
  by_cases h : e.1.str? = some s
  · simp [find?, h]
  · simp [find?, h]

/-- Writing the id of one text leaves the ids of the others. -/
theorem find?_put (text : Json) :
    find? s (put text id index) = if text.str? = some s then some id else find? s index := by
  induction index with
  | nil => exact find?_cons s (text, id) []
  | cons e rest ih =>
    obtain ⟨t, i⟩ := e
    unfold put
    split
    · rename_i hsame
      rw [find?_cons, find?_cons, str?_eq_of_same hsame]
      split <;> rfl
    · rename_i hsame
      rw [find?_cons, find?_cons, ih]
      by_cases ht : t.str? = some s
      · have htext : text.str? ≠ some s := fun htext => hsame (same_of_str? ht htext)
        rw [if_pos ht, if_neg htext, if_pos ht]
      · rw [if_neg ht, if_neg ht]

theorem enter_eq_ok_iff {e : Int × Json} {index' : TextIndex} :
    enter index e = .ok index' ↔ e.2.IsKey ∧ index' = put e.2 e.1 index := by
  obtain ⟨i, text⟩ := e
  cases text <;> simp [enter, Json.IsKey, eq_comm]

/-- After entering a table a text has the last id that the table gives it, else the one from before. -/
theorem find?_foldlM {table : LabelTable} {index' : TextIndex} (h : table.foldlM enter index = .ok index') :
    find? s index' = some id ↔
      table.LastWith s id ∨ (∀ e ∈ table, e.2 ≠ .str s) ∧ find? s index = some id := by
  induction table generalizing index with
  | nil =>
    obtain rfl := Except.ok.inj h
    refine ⟨fun hfind => .inr ⟨fun e he => absurd he List.not_mem_nil, hfind⟩, ?_⟩
    rintro (hlast | ⟨-, hfind⟩)
    · cases hlast
    · exact hfind
  | cons e rest ih =>
    obtain ⟨i, text⟩ := e
    rw [List.foldlM_cons] at h
    obtain ⟨entered, henter, hrest⟩ := bind_eq_ok h
    obtain ⟨-, rfl⟩ := enter_eq_ok_iff.1 henter
    -- the text entered here keeps its id only if it does not come again
    rw [ih hrest, find?_put]
    constructor
    · rintro (hlast | ⟨hnone, hfind⟩)
      · exact .inl (.there hlast)
      · split at hfind
        · rename_i htext
          obtain rfl := Option.some.inj hfind
          obtain rfl : text = .str s := eq_str_of_str? htext
          exact .inl (.here hnone)
        · rename_i htext
          refine .inr ⟨fun e he => ?_, hfind⟩
          rcases List.mem_cons.1 he with rfl | he
          · exact fun heq => htext (by rw [heq]; rfl)
          · exact hnone e he
    · rintro (hlast | ⟨hnone, hfind⟩)
      · cases hlast with
        | here hnone => exact .inr ⟨hnone, if_pos rfl⟩
        | there hlast => exact .inl hlast
      · refine .inr ⟨fun e he => hnone e (List.mem_cons_of_mem _ he), ?_⟩
        rw [if_neg, hfind]
        exact fun htext => hnone _ List.mem_cons_self (eq_str_of_str? htext)

theorem find?_ofTable {table : LabelTable} (h : ofTable table = .ok index) :
    find? s index = some id ↔ table.LastWith s id := by
  rw [find?_foldlM h]
  simp [find?]

theorem exists_foldlM_iff {table : LabelTable} (index : TextIndex) :
    (∃ index', table.foldlM enter index = .ok index') ↔ table.Indexed := by
  induction table generalizing index with
  | nil => exact ⟨fun _ e he => absurd he List.not_mem_nil, fun _ => ⟨index, rfl⟩⟩
  | cons e rest ih =>
    unfold LabelTable.Indexed
    rw [List.forall_mem_cons]
    constructor
    · rintro ⟨index', h⟩
      rw [List.foldlM_cons] at h
      obtain ⟨entered, henter, hrest⟩ := bind_eq_ok h
      exact ⟨(enter_eq_ok_iff.1 henter).1, (ih entered).1 ⟨index', hrest⟩⟩
    · rintro ⟨hkey, hrest⟩
      obtain ⟨index', h⟩ := (ih (put e.2 e.1 index)).2 hrest
      refine ⟨index', ?_⟩
      rw [List.foldlM_cons, enter_eq_ok_iff.2 ⟨hkey, rfl⟩]
      exact h

end TextIndex

theorem idOfValue_of_standsAlone {label : Json} {id : Int} (h : StandsAlone label id) :
    idOfValue label = .ok id := by
  cases h with
  | number => rfl
  | truth => rfl
  | float hq =>
    simp only [idOfValue, Decimal.isNaN_of_hasValue hq, Decimal.isInf_of_hasValue hq,
      Decimal.truncate_eq_wholePart hq, Bool.false_eq_true, if_false]
  | numeral hn =>
    rw [idOfValue, Decimal.readInteger_of_isNumeral hn]
    rfl

theorem StandsAlone.unique {label : Json} {id id' : Int} (h : StandsAlone label id)
    (h' : StandsAlone label id') : id = id' :=
  Except.ok.inj ((idOfValue_of_standsAlone h).symm.trans (idOfValue_of_standsAlone h'))

/-- A label that is no word has the id that it stands for by itself. -/
theorem idOfValue_eq_ok_iff {label : Json} (h : ∀ s, label = .str s → Text.isAllDigits s = true) {id : Int} :
    idOfValue label = .ok id ↔ StandsAlone label id := by
  refine ⟨fun hid => ?_, idOfValue_of_standsAlone⟩
  cases label with
  | null | arr _ | obj _ => cases hid
  | int n =>
    obtain rfl := Except.ok.inj hid
    exact .number
  | bool b =>
    obtain rfl := Except.ok.inj hid
    exact .truth
  | float x =>
    simp only [idOfValue] at hid
    split_ifs at hid with hnan hinf
    obtain ⟨q, hq⟩ := Decimal.exists_hasValue (Bool.eq_false_of_not_eq_true hnan)
      (Bool.eq_false_of_not_eq_true hinf)
    obtain rfl := Except.ok.inj hid
    rw [Decimal.truncate_eq_wholePart hq]
    exact .float hq
  | str s =>
    obtain ⟨n, hn, rfl⟩ := (Decimal.readInteger_digits_iff (h s rfl)).1 (mapError_eq_ok hid)
    exact .numeral hn

theorem not_standsAlone_of_word {s : String} (h : Text.isAllDigits s = false) (id : Int) :
    ¬ StandsAlone (.str s) id := by
  intro hid
  cases hid with
  | numeral hn =>
    rw [Decimal.isAllDigits_of_isNumeral hn] at h
    cases h

theorem idOfGold_word_eq_ok_iff {index : TextIndex} {s : String} (h : Text.isAllDigits s = false) {id : Int} :
    idOfGold index (.str s) = .ok id ↔ index.find? s = some id := by
  simp only [idOfGold, h, Bool.false_eq_true, if_false]
  cases index.find? s with
  | some found => simp
  | none => cases sortedTexts (index.map Prod.fst) <;> simp

/-- A gold label is mapped to the id that it has, whether or not the table has such a class. -/
theorem idOfGold_eq_ok_iff {table : LabelTable} {index : TextIndex}
    (hindex : TextIndex.ofTable table = .ok index) {label : Json} {id : Int} :
    idOfGold index label = .ok id ↔ HasId table label id := by
  by_cases hword : ∃ s, label = .str s ∧ Text.isAllDigits s = false
  · obtain ⟨s, rfl, hword⟩ := hword
    rw [idOfGold_word_eq_ok_iff hword, TextIndex.find?_ofTable hindex]
    constructor
    · exact .text hword
    · rintro (⟨-, hlast⟩ | halone)
      · exact hlast
      · exact absurd halone (not_standsAlone_of_word hword id)
  · have hdigits : ∀ s, label = .str s → Text.isAllDigits s = true := fun s hs =>
      Bool.of_not_eq_false fun hw => hword ⟨s, hs, hw⟩
    have hvalue : idOfGold index label = idOfValue label := by
      cases label with
      | str s => rw [idOfGold, if_pos (hdigits s rfl)]
      | null | bool _ | int _ | float _ | arr _ | obj _ => rfl
    rw [hvalue, idOfValue_eq_ok_iff hdigits]
    constructor
    · exact .alone
    · rintro (⟨hw, -⟩ | halone)
      · exact absurd ⟨_, rfl, hw⟩ hword
      · exact halone

section
variable {table : LabelTable}

/-- Gold labels are mapped to the ids that they have. -/
theorem goldIds_iff_hasId {labels : List Json} {ids : List Int} :
    goldIds table labels = .ok ids ↔
      table.Indexed ∧ List.Forall₂ (HasId table) labels ids ∧ ∀ id ∈ ids, isClassId id = true := by
  have hids {index : TextIndex} (hindex : TextIndex.ofTable table = .ok index) :
      List.Forall₂ (fun label id => idOfGold index label = .ok id) labels ids ↔
        List.Forall₂ (HasId table) labels ids :=
    ⟨fun h => h.imp fun _ _ => (idOfGold_eq_ok_iff hindex).1,
      fun h => h.imp fun _ _ => (idOfGold_eq_ok_iff hindex).2⟩
  constructor
  · intro h
    obtain ⟨index, hindex, -⟩ := bind_eq_ok h
    rw [goldIds_eq_ok_iff hindex, hids hindex] at h
    exact ⟨(TextIndex.exists_foldlM_iff []).1 ⟨index, hindex⟩, h⟩
  · rintro ⟨hindexed, h⟩
    obtain ⟨index, hindex⟩ := (TextIndex.exists_foldlM_iff []).2 hindexed
    rw [goldIds_eq_ok_iff hindex, hids hindex]
    exact h

theorem exists_hasId {labels : List Json} {ids : List Int} (h : goldIds table labels = .ok ids) {label : Json}
    (hlabel : label ∈ labels) : ∃ id, HasId table label id := by
  obtain ⟨index, hindex, hrest⟩ := bind_eq_ok h
  obtain ⟨found, hfound, -⟩ := bind_eq_ok hrest
  obtain ⟨id, hid⟩ := exists_mapM_eq_ok_iff.1 ⟨found, hfound⟩ label hlabel
  exact ⟨id, (idOfGold_eq_ok_iff hindex).1 hid⟩

/-- The id of a label text is always the id of a class, so that only what stands alone is in question. -/
theorem HasId.known_iff {label : Json} {id : Int} (h : HasId table label id) :
    id ∈ table.map Prod.fst ↔ ∀ id', StandsAlone label id' → id' ∈ table.map Prod.fst := by
  cases h with
  | text hword hlast =>
    have hknown : id ∈ table.map Prod.fst := List.mem_map_of_mem (f := Prod.fst) hlast.mem
    exact ⟨fun _ id' hid' => absurd hid' (not_standsAlone_of_word hword id'), fun _ => hknown⟩
  | alone halone =>
    constructor
    · intro hknown id' hid'
      rwa [← halone.unique hid']
    · intro hall
      exact hall id halone

theorem known_iff_of_hasId {labels : List Json} {ids : List Int} (h : List.Forall₂ (HasId table) labels ids) :
    (∀ id ∈ ids, id ∈ table.map Prod.fst) ↔
      ∀ label ∈ labels, ∀ id, StandsAlone label id → id ∈ table.map Prod.fst := by
  induction h with
  | nil => simp
  | cons hid _ ih => rw [List.forall_mem_cons, List.forall_mem_cons, ih, hid.known_iff]

end

/-- Gold labels and the classes of the table. Gold labels are mapped to ids exactly if the label texts can be
indexed, each label has its id and the ids are in range. A text that is neither made of digits nor a label text
is refused. But nothing else is looked up: the ids are all classes of the table exactly if the ids that labels
stand for by themselves are, and numbers in range are accepted whether or not the table has such classes. -/
theorem gold_ids_known_iff (table : LabelTable) (labels : List Json) :
    (∀ ids, goldIds table labels = .ok ids ↔
      table.Indexed ∧ List.Forall₂ (HasId table) labels ids ∧ ∀ id ∈ ids, isClassId id = true) ∧
    (∀ s, Json.str s ∈ labels → Text.isAllDigits s = false → Json.str s ∉ table.map Prod.snd →
      ∃ fault, goldIds table labels = .error fault) ∧
    (∀ ids, goldIds table labels = .ok ids → ((∀ id ∈ ids, id ∈ table.map Prod.fst) ↔
      ∀ label ∈ labels, ∀ id, StandsAlone label id → id ∈ table.map Prod.fst)) ∧
    ∀ ids, labels = ids.map Json.int → table.Indexed → (∀ id ∈ ids, isClassId id = true) →
      goldIds table labels = .ok ids := by
  refine ⟨fun ids => goldIds_iff_hasId, fun s hs hword hnew => ?_, fun ids hids => ?_, ?_⟩
  · cases hids : goldIds table labels with
    | error fault => exact ⟨fault, rfl⟩
    | ok ids =>
      obtain ⟨id, hid⟩ := exists_hasId hids hs
      cases hid with
      | text _ hlast => exact absurd (List.mem_map_of_mem (f := Prod.snd) hlast.mem) hnew
      | alone halone => exact absurd halone (not_standsAlone_of_word hword id)
  · exact known_iff_of_hasId (goldIds_iff_hasId.1 hids).2.1
  · rintro ids rfl hindexed hrange
    refine goldIds_iff_hasId.2 ⟨hindexed, ?_, hrange⟩
    rw [List.forall₂_map_left_iff, List.forall₂_same]
    exact fun id _ => .alone .number

def repeated : LabelTable := [(0, .str "no"), (1, .str "yes"), (4, .str "yes")]

/-- Of the repeated label text the last class is meant; a number and a truth value pass whatever the classes. -/
theorem gold_ids_known_iff_of_repeated :
    goldIds repeated [.str "yes", .bool true, .int 9] = .ok [4, 1, 9] ∧
    ¬ (∀ id ∈ [4, 1, 9], id ∈ repeated.map Prod.fst) ∧
    (∃ fault, goldIds repeated [.int 0, .str "maybe"] = .error fault) ∧
    goldIds repeated [.int (-3)] = .ok [-3] := by
  have hindexed : repeated.Indexed := by
    intro e he
    simp only [repeated, List.mem_cons, List.not_mem_nil, or_false] at he
    rcases he with rfl | rfl | rfl <;> exact ⟨nofun, nofun⟩
  have hyes : HasId repeated (.str "yes") 4 := .text (by decide) (.there (.there (.here nofun)))
  have hids : goldIds repeated [.str "yes", .bool true, .int 9] = .ok [4, 1, 9] :=
    ((gold_ids_known_iff repeated _).1 _).2
      ⟨hindexed, .cons hyes (.cons (.alone .truth) (.cons (.alone .number) .nil)), by decide⟩
  refine ⟨hids, fun hknown => ?_, ?_, ?_⟩
  · have hall := ((gold_ids_known_iff repeated _).2.2.1 _ hids).1 hknown
    exact absurd (hall (.int 9) (by simp) 9 .number) (by decide)
  · exact (gold_ids_known_iff repeated _).2.1 "maybe" (by simp) (by decide) (by simp [repeated])
  · exact (gold_ids_known_iff repeated _).2.2.2 [-3] rfl hindexed (by decide)

end Evaluation

end SequenceClassification
