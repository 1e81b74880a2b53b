import Mathlib
import SequenceClassification.Proofs.Evaluation.ConfusionTotals
import SequenceClassification.Proofs.Evaluation.GoldTexts
import SequenceClassification.Proofs.Sorting

/-!
The order of a label table and of the examples. A table is looked up by its ids and, for gold labels, by its
texts; everything else that is read of it is sorted. Examples are only counted. Main statement: over
distinct label texts the evaluation gives the same answers for every order of the entries of the table, and
the same report and confusions for every order of the examples.
-/
namespace SequenceClassification

namespace LabelTable

variable {table table' : LabelTable}

theorem sortedIds_perm (h : table.Perm table') : sortedIds table = sortedIds table' :=
  mergeSort_eq_of_perm (fun _ _ => decide_eq_true_iff) (h.map Prod.fst)

theorem textOf_perm (hids : (Entries.keys table).Nodup) (h : table.Perm table') :
    textOf table = textOf table' := by
  funext id
  rw [textOf, textOf, Entries.get?_perm hids h]

theorem DistinctTexts.perm (hd : table.DistinctTexts) (h : table.Perm table') : table'.DistinctTexts where
  strings := fun e he => hd.strings e (h.mem_iff.2 he)
  nodup := (h.map Prod.snd).nodup_iff.1 hd.nodup

end LabelTable

namespace Evaluation

variable {table table' : LabelTable}

/-- Distinct label texts are found with their own class ids, and nothing else is. -/
theorem TextIndex.find?_eq_some_iff (hd : table.DistinctTexts) {s : String} {id : Int} :
    find? s (table.map fun e => (e.2, e.1)) = some id ↔ (id, Json.str s) ∈ table := by
  refine ⟨fun h => ?_, find?_of_distinct hd⟩
  obtain ⟨⟨text, i⟩, hfound, rfl⟩ := Option.map_eq_some_iff.1 h
  obtain ⟨⟨i', text'⟩, hmem, heq⟩ := List.mem_map.1 (List.mem_of_find?_eq_some hfound)
  obtain ⟨t, ht⟩ := hd.strings _ hmem
  have hs : text.str? = some s := by simpa using List.find?_some hfound
  cases heq
  cases ht
  cases hs
  exact hmem

theorem TextIndex.find?_perm (hd : table.DistinctTexts) (h : table.Perm table') (s : String) :
    find? s (table.map fun e => (e.2, e.1)) = find? s (table'.map fun e => (e.2, e.1)) :=
  Option.ext fun id => by rw [find?_eq_some_iff hd, find?_eq_some_iff (hd.perm h), h.mem_iff]

theorem unorderedPair?_strings (strings : List String) : unorderedPair? (strings.map Json.str) = none := by
  induction strings with
  | nil => rfl
  | cons s strings ih =>
    cases strings with
    | nil => rfl
    | cons t strings => exact ih

/-- Texts are sorted as strings are. -/
theorem sortedTexts_strings (strings : List String) : sortedTexts (strings.map Json.str) =
    .ok ((strings.mergeSort fun s t => decide (s ≤ t)).map Json.str) := by
  have horder : ∀ s ∈ strings, ∀ t ∈ strings, decide (s ≤ t) = !precedes (.str t) (.str s) := by
    intro s _ t _
    rw [precedes, ← decide_not]
    exact decide_eq_decide.2 not_lt.symm
  have hsorted : (strings.mergeSort fun s t => decide (s ≤ t)).map Json.str =
      (strings.map Json.str).mergeSort fun a b => !precedes b a := List.map_mergeSort horder
  simp only [sortedTexts, unorderedPair?_strings, hsorted]

theorem exists_strings {texts : List Json} (h : ∀ t ∈ texts, ∃ s, t = .str s) :
    ∃ strings : List String, texts = strings.map Json.str := by
  induction texts with
  | nil => exact ⟨[], rfl⟩
  | cons t texts ih =>
    obtain ⟨s, rfl⟩ := h t List.mem_cons_self
    obtain ⟨strings, rfl⟩ := ih fun t' ht' => h t' (List.mem_cons_of_mem _ ht')
    exact ⟨s :: strings, rfl⟩

theorem sortedTexts_perm {texts texts' : List Json} (hstrings : ∀ t ∈ texts, ∃ s, t = .str s)
    (h : texts.Perm texts') : sortedTexts texts = sortedTexts texts' := by
  obtain ⟨strings, rfl⟩ := exists_strings hstrings
  obtain ⟨strings', rfl⟩ := exists_strings fun t ht => hstrings t (h.mem_iff.2 ht)
  have hinjective : Function.Injective Json.str := fun s t hst => Json.str.inj hst
  have hperm : strings.Perm strings' := (List.map_perm_map_iff hinjective).1 h
  rw [sortedTexts_strings, sortedTexts_strings,
    mergeSort_eq_of_perm (fun _ _ => decide_eq_true_iff) hperm]

/-- The index is read in two ways, and neither sees its order: by a text, and for all texts in order. -/
theorem idOfGold_perm (hd : table.DistinctTexts) (h : table.Perm table') :
    idOfGold (table.map fun e => (e.2, e.1)) = idOfGold (table'.map fun e => (e.2, e.1)) := by
  have htexts : ∀ t : LabelTable, (t.map fun e => (e.2, e.1)).map Prod.fst = t.map Prod.snd := by
    intro t
    rw [List.map_map]
    rfl
  have hstrings : ∀ t ∈ table.map Prod.snd, ∃ s, t = .str s := List.forall_mem_map.2 hd.strings
  funext label
  cases label with
  | str s =>
    rw [idOfGold, idOfGold, TextIndex.find?_perm hd h, htexts, htexts,
      sortedTexts_perm hstrings (h.map Prod.snd)]
  | null | bool _ | int _ | float _ | arr _ | obj _ => rfl

theorem goldIds_perm (hd : table.DistinctTexts) (h : table.Perm table') (labels : List Json) :
    goldIds table labels = goldIds table' labels := by
  rw [goldIds_eq_bind (TextIndex.ofTable_of_distinct hd),
    goldIds_eq_bind (TextIndex.ofTable_of_distinct (hd.perm h)), idOfGold_perm hd h]

theorem report_perm (hids : (Entries.keys table).Nodup) (h : table.Perm table') (gold predicted : List Int) :
    report table gold predicted = report table' gold predicted := by
  have hclasses : reportClasses table = reportClasses table' := by
    rw [reportClasses, reportClasses, LabelTable.sortedIds_perm h, LabelTable.textOf_perm hids h]
  rw [report, report, hclasses, h.isEmpty_eq]

theorem topConfusions_perm (hids : (Entries.keys table).Nodup) (h : table.Perm table')
    (gold predicted : List Int) :
    topConfusions table gold predicted = topConfusions table' gold predicted := by
  funext top
  rw [topConfusions, topConfusions, LabelTable.sortedIds_perm h, LabelTable.textOf_perm hids h]

section
variable {outcomes outcomes' : Outcomes}

theorem pairUp_map (outcomes : Outcomes) :
    pairUp (outcomes.map Prod.fst) (outcomes.map Prod.snd) = .ok outcomes := by
  rw [pairUp_of_length (by simp), List.zip_map', List.map_id']

/-- The report sees the examples through counts and through questions about all of them. -/
theorem report_examples_perm (table : LabelTable) (h : outcomes.Perm outcomes') :
    report table (outcomes.map Prod.fst) (outcomes.map Prod.snd) =
      report table (outcomes'.map Prod.fst) (outcomes'.map Prod.snd) := by
  have hcounts : ClassCount.of outcomes = ClassCount.of outcomes' := funext fun id => counts_perm h id
  have hcorrect : correct outcomes = correct outcomes' := h.countP_eq _
  have hall : ∀ p : Int × Int → Bool, outcomes.all p = outcomes'.all p := fun p => h.all_eq
  simp only [report, pairUp_map, ok_bind, hcounts, hcorrect, hall, List.length_map, h.length_eq]

theorem confusionsOf_perm (ids : List Int) (h : outcomes.Perm outcomes') :
    confusionsOf ids outcomes = confusionsOf ids outcomes' := by
  simp only [confusionsOf, h.countP_eq]

theorem topConfusions_examples_perm (table : LabelTable) (h : outcomes.Perm outcomes') :
    topConfusions table (outcomes.map Prod.fst) (outcomes.map Prod.snd) =
      topConfusions table (outcomes'.map Prod.fst) (outcomes'.map Prod.snd) := by
  have hany : ∀ p : Int × Int → Bool, outcomes.any p = outcomes'.any p := fun p => h.any_eq
  funext top
  simp only [topConfusions, pairUp_map, ok_bind, confusionsOf_perm _ h, h.isEmpty_eq, hany]

end

/-- The evaluation does not depend on the order of the label table, nor on that of the examples. Two tables
with the same entries in any order, whose ids are distinct and whose texts are distinct strings, map gold
labels alike, to ids or to the same failure, and give the same metrics over their sorted ids, the same
report and the same confusions; and examples in another order give the same report and confusions. -/
theorem order_does_not_matter (hids : (Entries.keys table).Nodup) (htexts : table.DistinctTexts)
    (hperm : table.Perm table') :
    (∀ labels, goldIds table labels = goldIds table' labels) ∧
    (∀ gold predicted,
      computeMetrics gold predicted (some (LabelTable.sortedIds table)) =
        computeMetrics gold predicted (some (LabelTable.sortedIds table')) ∧
      report table gold predicted = report table' gold predicted ∧
      ∀ top, topConfusions table gold predicted top = topConfusions table' gold predicted top) ∧
    ∀ outcomes outcomes' : Outcomes, outcomes.Perm outcomes' →
      report table (outcomes.map Prod.fst) (outcomes.map Prod.snd) =
        report table (outcomes'.map Prod.fst) (outcomes'.map Prod.snd) ∧
      ∀ top, topConfusions table (outcomes.map Prod.fst) (outcomes.map Prod.snd) top =
        topConfusions table (outcomes'.map Prod.fst) (outcomes'.map Prod.snd) top := by
  refine ⟨goldIds_perm htexts hperm, fun gold predicted => ⟨?_, ?_, fun top => ?_⟩,
    fun outcomes outcomes' h => ⟨report_examples_perm table h, fun top => ?_⟩⟩
  · rw [LabelTable.sortedIds_perm hperm]
  · exact report_perm hids hperm gold predicted
  · rw [topConfusions_perm hids hperm]
  · rw [topConfusions_examples_perm table h]

def moods : LabelTable := [(2, .str "mixed"), (0, .str "good"), (1, .str "bad")]

theorem distinctTexts_moods : moods.DistinctTexts where
  strings := by
    intro e he
    simp only [moods, List.mem_cons, List.not_mem_nil, or_false] at he
    rcases he with rfl | rfl | rfl <;> exact ⟨_, rfl⟩
  nodup := by simp [moods]

theorem order_does_not_matter_of_moods :
    (Entries.keys moods).Nodup ∧ moods.DistinctTexts ∧ moods.Perm moods.reverse ∧
    goldIds moods.reverse [.str "mixed", .str "dull"] =
      .error (.unknown "dull" [.str "bad", .str "good", .str "mixed"]) ∧
    topConfusions moods.reverse [0, 1] [1, 0] (some 1) = .ok [(1, .str "good", .str "bad")] ∧
    topConfusions moods [1, 0] [0, 1] (some 1) = .ok [(1, .str "good", .str "bad")] := by
  have hids : (Entries.keys moods).Nodup := by decide
  have hperm : moods.Perm moods.reverse := (List.reverse_perm moods).symm
  obtain ⟨hgold, htable, hexamples⟩ := order_does_not_matter hids distinctTexts_moods hperm
  have hunknown : goldIds moods [.str "mixed", .str "dull"] =
      .error (.unknown "dull" [.str "bad", .str "good", .str "mixed"]) := by cbv
  have hfirst : topConfusions moods [0, 1] [1, 0] (some 1) = .ok [(1, .str "good", .str "bad")] := by cbv
  refine ⟨hids, distinctTexts_moods, hperm, (hgold _).symm.trans hunknown,
    ((htable _ _).2.2 _).symm.trans hfirst, ?_⟩
  exact ((hexamples [(0, 1), (1, 0)] [(1, 0), (0, 1)] (List.Perm.swap ..)).2 (some 1)).symm.trans hfirst

end Evaluation

end SequenceClassification
