import Mathlib.Tactic.Linarith
import SequenceClassification.Proofs.Evaluation.ExactMetrics
import SequenceClassification.Proofs.Evaluation.Scoring

/-!
Confusions and accuracy. A row of confusions is one gold class; its counts add up to the examples of the
class that were not predicted rightly, and the rows add up to all such examples. Main statement: the
confusions and the correct positions together are the examples, so that a run of the evaluation says that
there are no confusions exactly at accuracy one.
-/
namespace SequenceClassification.Evaluation

/-- How often a gold class was taken for another one. -/
def missesOf (outcomes : Outcomes) (id : Int) : Nat :=
  outcomes.countP fun p => (p.1 == id && p.1 != p.2)

def confusionRow (ids : List Int) (outcomes : Outcomes) (gold : Int) : List Confusion :=
  ids.filterMap fun predicted =>
    let n := outcomes.countP fun p => p.1 == gold && p.2 == predicted
    if gold != predicted && 0 < n then some ⟨n, gold, predicted⟩ else none

section
variable {ids : List Int} {outcomes : Outcomes}

theorem mem_confusionRow {gold : Int} {c : Confusion} (h : c ∈ confusionRow ids outcomes gold) :
    c.gold = gold ∧ c.predicted ∈ ids ∧ c.gold ≠ c.predicted ∧ 0 < c.count ∧
      c.count = outcomes.countP fun p => p.1 == c.gold && p.2 == c.predicted := by
  obtain ⟨predicted, hpredicted, hc⟩ := List.mem_filterMap.1 h
  rw [Option.ite_none_right_eq_some, Bool.and_eq_true, bne_iff_ne, decide_eq_true_eq] at hc
  obtain ⟨⟨hne, hpos⟩, hc⟩ := hc
  cases hc
  exact ⟨rfl, hpredicted, hne, hpos, rfl⟩

theorem confusionsOf_eq : confusionsOf ids outcomes = ids.flatMap (confusionRow ids outcomes) := rfl

/-- There is a confusion for every pair of different classes that occurs, with its number of positions. -/
theorem mem_confusionsOf {c : Confusion} : c ∈ confusionsOf ids outcomes ↔
    c.gold ∈ ids ∧ c.predicted ∈ ids ∧ c.gold ≠ c.predicted ∧
      c.count = outcomes.count (c.gold, c.predicted) ∧ 0 < c.count := by
  constructor
  · intro h
    obtain ⟨gold, hgold, hc⟩ := List.mem_flatMap.1 h
    obtain ⟨heq, hpredicted, hne, hpos, hcount⟩ := mem_confusionRow hc
    exact ⟨heq ▸ hgold, hpredicted, hne, hcount, hpos⟩
  · intro h
    obtain ⟨hgold, hpredicted, hne, hcount, hpos⟩ := h
    refine List.mem_flatMap.2 ⟨c.gold, hgold, List.mem_filterMap.2 ⟨c.predicted, hpredicted, ?_⟩⟩
    have hcount' : (outcomes.countP fun p => p.1 == c.gold && p.2 == c.predicted) = c.count := hcount.symm
    simp only [hcount', Option.ite_none_right_eq_some, Bool.and_eq_true, bne_iff_ne, decide_eq_true_eq]
    exact ⟨⟨hne, hpos⟩, trivial⟩

/-- A sum over what is picked out is a sum in which the rest counts nothing. -/
theorem sum_filterMap_ite {α β : Type} (c : α → Bool) (f : α → β) (g : β → Nat) (xs : List α) :
    ((xs.filterMap fun x => if c x then some (f x) else none).map g).sum =
      (xs.map fun x => if c x then g (f x) else 0).sum := by
  induction xs with
  | nil => rfl
  | cons x xs ih =>
    rw [List.filterMap_cons, List.map_cons, List.sum_cons, ← ih]
    cases c x <;> simp

/-- A row adds up to the examples of its class that were not predicted rightly. -/
theorem sum_confusionRow (hids : ids.Nodup) (hcovered : Covered ids outcomes) (gold : Int) :
    ((confusionRow ids outcomes gold).map (·.count)).sum = missesOf outcomes gold := by
  have hentry : ∀ predicted,
      (if (gold != predicted && decide (0 < outcomes.countP fun p => p.1 == gold && p.2 == predicted)) = true
        then outcomes.countP fun p => p.1 == gold && p.2 == predicted else 0) =
      outcomes.countP fun p => (p.1 == gold && p.1 != p.2) && p.2 == predicted := by
    intro predicted
    by_cases hdiag : gold = predicted
    · simp only [hdiag, bne_self_eq_false, Bool.false_and, Bool.false_eq_true, if_false]
      refine (List.countP_eq_zero.2 fun p _ hp => ?_).symm
      simp only [Bool.and_eq_true, beq_iff_eq, bne_iff_ne] at hp
      omega
    · have hcount : (outcomes.countP fun p => (p.1 == gold && p.1 != p.2) && p.2 == predicted) =
          outcomes.countP fun p => p.1 == gold && p.2 == predicted := by
        refine List.countP_congr fun p _ => ?_
        simp only [Bool.and_eq_true, beq_iff_eq, bne_iff_ne]
        omega
      rw [hcount]
      split
      · rfl
      · rename_i h
        simp only [Bool.and_eq_true, bne_iff_ne, decide_eq_true_eq] at h
        omega
  rw [confusionRow, sum_filterMap_ite]
  simp only [hentry]
  exact sum_countP_of_keys hids Prod.snd (fun p : Int × Int => p.1 == gold && p.1 != p.2) outcomes
    fun p hp _ => (hcovered p hp).2

theorem sum_flatMap_counts {α : Type} (f : α → List Confusion) (xs : List α) :
    ((xs.flatMap f).map (·.count)).sum = (xs.map fun x => ((f x).map (·.count)).sum).sum := by
  rw [List.map_flatMap, List.flatMap_def, List.sum_flatten, List.map_map]
  rfl

theorem misses_add_hits (outcomes : Outcomes) (id : Int) :
    missesOf outcomes id + (ClassCount.of outcomes id).hits = (ClassCount.of outcomes id).support := by
  simp only [missesOf, ClassCount.of]
  induction outcomes with
  | nil => rfl
  | cons p outcomes ih =>
    simp only [List.countP_cons, ← ih]
    by_cases hfirst : p.1 = id
    · by_cases hsecond : p.2 = id
      · simp [hfirst, hsecond]
        omega
      · simp [hfirst, hsecond, Ne.symm hsecond]
        omega
    · simp [hfirst]

/-- The confusions of a gold class and its hits are its examples. -/
theorem sum_counts_of_gold (hids : ids.Nodup) (hcovered : Covered ids outcomes) {gold : Int}
    (hgold : gold ∈ ids) :
    (((confusionsOf ids outcomes).filter (·.gold == gold)).map (·.count)).sum +
      (ClassCount.of outcomes gold).hits = (ClassCount.of outcomes gold).support := by
  have hrow : ∀ g, ((confusionRow ids outcomes g).filter (·.gold == gold)) =
      if gold == g then confusionRow ids outcomes g else [] := by
    intro g
    split
    · rename_i h
      refine List.filter_eq_self.2 fun c hc => ?_
      rw [(mem_confusionRow hc).1, ← beq_iff_eq.1 h]
      exact beq_self_eq_true _
    · rename_i h
      refine List.filter_eq_nil_iff.2 fun c hc hg => h ?_
      rw [← (mem_confusionRow hc).1, beq_iff_eq]
      exact (beq_iff_eq.1 hg).symm
  have hsum : ∀ g, ((if gold == g then confusionRow ids outcomes g else []).map (·.count)).sum =
      if gold == g then missesOf outcomes gold else 0 := by
    intro g
    split
    · rename_i h
      rw [sum_confusionRow hids hcovered, beq_iff_eq.1 h]
    · rfl
  rw [confusionsOf_eq, List.filter_flatMap, sum_flatMap_counts]
  simp only [hrow, hsum]
  rw [sum_map_single hids hgold, misses_add_hits]

/-- All confusions and the correct positions are the examples. -/
theorem sum_counts_add_correct (hids : ids.Nodup) (hcovered : Covered ids outcomes) :
    ((confusionsOf ids outcomes).map (·.count)).sum + correct outcomes = outcomes.length := by
  have hmisses : (ids.map (missesOf outcomes)).sum = outcomes.countP fun p => p.1 != p.2 := by
    rw [← sum_countP_of_keys hids Prod.fst (fun p : Int × Int => p.1 != p.2) outcomes
      fun p hp _ => (hcovered p hp).1]
    refine congrArg List.sum (List.map_congr_left fun id _ => ?_)
    exact List.countP_congr fun p _ => by simp only [Bool.and_comm]
  have hpositions := List.length_eq_countP_add_countP (fun p : Int × Int => p.1 == p.2) (l := outcomes)
  rw [confusionsOf_eq, sum_flatMap_counts]
  simp only [sum_confusionRow hids hcovered]
  rw [hmisses, correct, hpositions, Nat.add_comm]
  refine congrArg _ (List.countP_congr fun p _ => ?_)
  simp

end

/-- What is listed for a confusion: how often, and the texts of its two classes. -/
def Shows (table : LabelTable) (c : Confusion) (entry : Nat × Json × Json) : Prop :=
  entry.1 = c.count ∧ Entries.get? c.gold table = some entry.2.1 ∧
    Entries.get? c.predicted table = some entry.2.2

def confusionsIn (table : LabelTable) (outcomes : Outcomes) : List Confusion :=
  byFrequency (confusionsOf (LabelTable.sortedIds table) outcomes)

section
variable {table : LabelTable} {gold predicted : List Int}

theorem perm_sortedIds (table : LabelTable) : (LabelTable.sortedIds table).Perm (Entries.keys table) :=
  List.mergeSort_perm _ _

theorem perm_confusionsIn (table : LabelTable) (outcomes : Outcomes) :
    (confusionsIn table outcomes).Perm (confusionsOf (LabelTable.sortedIds table) outcomes) :=
  byFrequency_perm _

theorem textOf_eq_ok_iff {id : Int} {text : Json} :
    LabelTable.textOf table id = .ok text ↔ Entries.get? id table = some text := by
  unfold LabelTable.textOf
  cases Entries.get? id table <;> simp

def shown (table : LabelTable) (c : Confusion) : Except Failure (Nat × Json × Json) := do
  let t ← LabelTable.textOf table c.gold
  let p ← LabelTable.textOf table c.predicted
  pure (c.count, t, p)

theorem shows_of_shown {c : Confusion} {entry : Nat × Json × Json} (h : shown table c = .ok entry) :
    Shows table c entry := by
  obtain ⟨t, ht, h⟩ := bind_eq_ok h
  obtain ⟨p, hp, h⟩ := bind_eq_ok h
  cases h
  exact ⟨rfl, textOf_eq_ok_iff.1 ht, textOf_eq_ok_iff.1 hp⟩

theorem exists_shown {c : Confusion} (hgold : c.gold ∈ LabelTable.sortedIds table)
    (hpredicted : c.predicted ∈ LabelTable.sortedIds table) : ∃ entry, shown table c = .ok entry := by
  rw [(perm_sortedIds table).mem_iff, ← Entries.get?_isSome_iff, Option.isSome_iff_exists] at hgold hpredicted
  obtain ⟨t, ht⟩ := hgold
  obtain ⟨p, hp⟩ := hpredicted
  exact ⟨(c.count, t, p), by rw [shown, textOf_eq_ok_iff.2 ht, textOf_eq_ok_iff.2 hp]; rfl⟩

/-- The confusions of the table's classes are listed, up to the position asked for, if the table has a class
and the gold ids, unless there are none, have one of its classes among them. -/
theorem exists_topConfusions (htable : table ≠ []) (hlength : gold.length = predicted.length)
    (hgold : gold = [] ∨ ∃ id ∈ gold, id ∈ Entries.keys table) :
    ∃ listed, List.Forall₂ (Shows table) (confusionsIn table (gold.zip predicted)) listed ∧
      ∀ top, topConfusions table gold predicted top = .ok (upTo top listed) := by
  have hentries : ∀ c ∈ confusionsIn table (gold.zip predicted), ∃ entry, shown table c = .ok entry := by
    intro c hc
    obtain ⟨hg, hp, -⟩ := mem_confusionsOf.1 ((perm_confusionsIn _ _).mem_iff.1 hc)
    exact exists_shown hg hp
  obtain ⟨listed, hlisted⟩ := exists_mapM_eq_ok hentries
  refine ⟨listed, (mapM_eq_ok_iff.1 hlisted).imp fun c entry => shows_of_shown, fun top => ?_⟩
  have hids : (LabelTable.sortedIds table).isEmpty = false := by
    rw [(perm_sortedIds table).isEmpty_eq]
    exact List.isEmpty_eq_false_iff.2 (List.map_eq_nil_iff.not.2 htable)
  have hexamples : (!(gold.zip predicted).isEmpty &&
      !(gold.zip predicted).any fun p => (LabelTable.sortedIds table).contains p.1) = false := by
    rcases hgold with rfl | ⟨id, hid, hkey⟩
    · rfl
    · obtain ⟨i, hi, rfl⟩ := List.mem_iff_getElem.1 hid
      have hi' : i < (gold.zip predicted).length := by
        rw [List.length_zip]
        omega
      have hany : (gold.zip predicted).any (fun p => (LabelTable.sortedIds table).contains p.1) = true := by
        refine List.any_eq_true.2 ⟨_, List.getElem_mem hi', ?_⟩
        rw [List.getElem_zip, List.contains_iff_mem, (perm_sortedIds table).mem_iff]
        exact hkey
      rw [hany, Bool.not_true, Bool.and_false]
  simp only [topConfusions, pairUp_of_length hlength, ok_bind, hids, hexamples, Bool.false_eq_true, if_false]
  change (((confusionsIn table (gold.zip predicted)).mapM (shown table)).bind fun entries =>
    .ok (upTo top entries)) = _
  rw [hlisted]
  rfl

/-- Ids of the table's classes have all their confusions listed, up to the position asked for. -/
theorem topConfusions_of_covered (hlength : gold.length = predicted.length) (hne : gold ≠ [])
    (hcovered : Covered (LabelTable.sortedIds table) (gold.zip predicted)) :
    ∃ listed, List.Forall₂ (Shows table) (confusionsIn table (gold.zip predicted)) listed ∧
      ∀ top, topConfusions table gold predicted top = .ok (upTo top listed) := by
  obtain ⟨p, hp⟩ := List.exists_mem_of_ne_nil _ (zip_ne_nil hlength hne)
  have hkey := (perm_sortedIds table).mem_iff.1 (hcovered p hp).1
  have htable : table ≠ [] := fun hnil => by
    rw [hnil] at hkey
    exact List.not_mem_nil hkey
  exact exists_topConfusions htable hlength (.inr ⟨p.1, (List.of_mem_zip hp).1, hkey⟩)

theorem upTo_of_length_le {α : Type} {n : Int} {xs : List α} (h : (xs.length : Int) ≤ n) :
    upTo (some n) xs = xs := by
  have hneg : ¬ n < 0 := by omega
  rw [upTo, if_neg hneg, List.take_of_length_le (by omega)]

end

namespace Script

def noConfusions : String := "\nNo confusions on eval set.\n"

/-- Only an empty list of confusions is reported as none: another one has its own heading. -/
theorem confusionText_eq_iff (confusions : List (Nat × Json × Json)) :
    confusionText confusions = noConfusions ↔ confusions = [] := by
  cases confusions with
  | nil => exact iff_of_true confusionText_nil rfl
  | cons entry rest =>
    refine iff_of_false (fun h => ?_) (List.cons_ne_nil _ _)
    have hsecond := congrArg (fun s : String => s.toList[1]?) h
    simp [confusionText, noConfusions] at hsecond

theorem exists_report {table : LabelTable} {gold predicted : List Int} (htable : table ≠ [])
    (hlength : gold.length = predicted.length) (hstrings : ∀ e ∈ table, ∃ s, e.2 = .str s) :
    ∃ text, report table gold predicted = .ok text := by
  have hclasses : ∀ id ∈ LabelTable.sortedIds table, ∃ c, (do
      let text ← LabelTable.textOf table id
      let name ← reportName text
      pure (id, name) : Except Failure (Int × String)) = .ok c := by
    intro id hid
    rw [(perm_sortedIds table).mem_iff, ← Entries.get?_isSome_iff, Option.isSome_iff_exists] at hid
    obtain ⟨text, htext⟩ := hid
    obtain ⟨s, hs⟩ := hstrings _ (Entries.mem_of_get? htext)
    cases hs
    exact ⟨(id, s), by rw [textOf_eq_ok_iff.2 htext]; rfl⟩
  obtain ⟨classes, hclasses⟩ := exists_mapM_eq_ok hclasses
  have hreport : reportClasses table = .ok classes := hclasses
  have hempty : table.isEmpty = false := List.isEmpty_eq_false_iff.2 htable
  simp only [report, hempty, pairUp_of_length hlength, ok_bind, hreport, Bool.false_eq_true, if_false]
  exact ⟨_, rfl⟩

/-- What is said after the metrics: the report and the closing part, unless the report fails. -/
theorem summary_of_topConfusions (number : Float → String) {table : LabelTable} {gold predicted : List Int}
    (hlength : gold.length = predicted.length) {confusions : List (Nat × Json × Json)}
    (hconfusions : topConfusions table gold predicted (some defaultTop) = .ok confusions) :
    ∃ m, computeMetrics gold predicted (some (LabelTable.sortedIds table)) = .ok m ∧
      (∀ text, report table gold predicted = .ok text → summary number table gold predicted =
        (metricsLine number m ++ reportHeading ++ text ++ "\n" ++ confusionText confusions, .ok ())) ∧
      ∀ e, report table gold predicted = .error e →
        summary number table gold predicted = (metricsLine number m ++ reportHeading, .error e) := by
  have hmetrics : computeMetrics gold predicted (some (LabelTable.sortedIds table)) = _ :=
    computeMetricsIn_of_length quotients64 hlength _
  refine ⟨_, hmetrics, fun text htext => ?_, fun e he => ?_⟩
  · simp only [summary, hmetrics, htext, hconfusions]
  · simp only [summary, hmetrics, he]

/-- A run in which the model predicts an id for every text says what there is to say of the ids. -/
theorem run_of_predicted (number : Float → String) {argv : List String} {arguments : Arguments}
    (hargv : Arguments.ofWords argv = .ok arguments) {disk : Disk} {sample : Sample}
    (hsample : Sample.ofFile disk arguments.table = .ok sample) {m : Facade String} {gold : List Int}
    (hgold : goldIds m.labels sample.labels = .ok gold) {predicted : List Int}
    (hpredicted : (predictIds m (texts sample) arguments.batchSize).outcome = .ok predicted) :
    ((run number disk (.ok m) argv).out, (run number disk (.ok m) argv).outcome) =
      summary number m.labels gold predicted := by
  rw [run_of_sample hargv hsample hgold]
  simp only [score, hpredicted]

end Script

/-- What a run over gold and predicted ids leaves behind: metrics and a report, if the report can be
written, and then the closing part, which says that there are no confusions exactly if the ids are
`flawless`. -/
def Concludes (number : Float → String) (table : LabelTable) (gold predicted : List Int) (flawless : Prop)
    (console : Console) : Prop :=
  ∃ m, computeMetrics gold predicted (some (LabelTable.sortedIds table)) = .ok m ∧
    (∀ text, report table gold predicted = .ok text → console.outcome = .ok () ∧
      ∃ closing, (closing = Script.noConfusions ↔ flawless) ∧
        console.out = Script.metricsLine number m ++ Script.reportHeading ++ text ++ "\n" ++ closing) ∧
    ∀ e, report table gold predicted = .error e → console.outcome = .error e ∧
      console.out = Script.metricsLine number m ++ Script.reportHeading

section
variable {table : LabelTable} {gold predicted : List Int}

/-- A run over gold and predicted ids concludes with the confusions that are listed of them. -/
theorem concludes_run (number : Float → String) {argv : List String} {arguments : Arguments}
    (hargv : Arguments.ofWords argv = .ok arguments) {disk : Disk} {sample : Sample}
    (hsample : Sample.ofFile disk arguments.table = .ok sample) {m : Facade String}
    (hgold : goldIds m.labels sample.labels = .ok gold)
    (hpredicted : (predictIds m (Script.texts sample) arguments.batchSize).outcome = .ok predicted)
    (hlength : gold.length = predicted.length) {confusions : List (Nat × Json × Json)}
    (hconfusions : topConfusions m.labels gold predicted (some defaultTop) = .ok confusions)
    {flawless : Prop} (hflawless : confusions = [] ↔ flawless) :
    Concludes number m.labels gold predicted flawless (Script.run number disk (.ok m) argv) := by
  have hsays := Script.run_of_predicted number hargv hsample hgold hpredicted
  obtain ⟨metrics, hmetrics, hreported, hfailed⟩ :=
    Script.summary_of_topConfusions number hlength hconfusions
  refine ⟨metrics, hmetrics, fun text htext => ?_, fun e he => ?_⟩
  · rw [hreported text htext] at hsays
    exact ⟨congrArg Prod.snd hsays, _, (Script.confusionText_eq_iff _).trans hflawless,
      congrArg Prod.fst hsays⟩
  · rw [hfailed e he] at hsays
    exact ⟨congrArg Prod.snd hsays, congrArg Prod.fst hsays⟩

theorem map_fst_of_shows {confusions : List Confusion} {listed : List (Nat × Json × Json)}
    (h : List.Forall₂ (Shows table) confusions listed) : listed.map Prod.fst = confusions.map (·.count) := by
  induction h with
  | nil => rfl
  | cons hentry _ ih => rw [List.map_cons, List.map_cons, ih, hentry.1]

/-- Nothing is listed exactly if every position is correct. -/
theorem listed_eq_nil_iff {outcomes : Outcomes} (htable : (Entries.keys table).Nodup)
    (hcovered : Covered (LabelTable.sortedIds table) outcomes) {listed : List (Nat × Json × Json)}
    (h : List.Forall₂ (Shows table) (confusionsIn table outcomes) listed) :
    listed = [] ↔ correct outcomes = outcomes.length := by
  have hids := (perm_sortedIds table).nodup_iff.2 htable
  have htotal := sum_counts_add_correct hids hcovered
  have hperm := perm_confusionsIn table outcomes
  rw [← List.length_eq_zero_iff, ← h.length_eq, hperm.length_eq, List.length_eq_zero_iff]
  constructor
  · intro hnil
    rw [hnil, List.map_nil, List.sum_nil, Nat.zero_add] at htotal
    exact htotal
  · intro hcorrect
    refine List.eq_nil_iff_forall_not_mem.2 fun c hc => ?_
    -- a confusion counts at least one position, and none is left to count
    have hpos := (mem_confusionsOf.1 hc).2.2.2.2
    have hle := List.le_sum_of_mem (List.mem_map_of_mem (f := (·.count)) hc)
    omega

/-- Confusions and accuracy add up. For ids of the classes of a table, everything that is listed of the
confusions and the correct positions are the examples; so it is for each gold class and its hits. A run of
the evaluation over these ids therefore says that there are no confusions exactly at accuracy one. -/
theorem confusions_add_up (htable : (Entries.keys table).Nodup) (hlength : gold.length = predicted.length)
    (hne : gold ≠ []) (hgold : ∀ id ∈ gold, id ∈ Entries.keys table)
    (hpredicted : ∀ id ∈ predicted, id ∈ Entries.keys table) :
    ∃ m listed,
      computeMetricsIn quotientsExact gold predicted (some (LabelTable.sortedIds table)) = .ok m ∧
      topConfusions table gold predicted none = .ok listed ∧
      (∀ n : Int, listed.length ≤ n → topConfusions table gold predicted (some n) = .ok listed) ∧
      (listed.map Prod.fst).sum + correct (gold.zip predicted) = gold.length ∧
      ((listed.map Prod.fst).sum : ℚ) = gold.length * (1 - m.accuracy) ∧
      List.Forall₂ (Shows table) (confusionsIn table (gold.zip predicted)) listed ∧
      (∀ id ∈ Entries.keys table,
        (((confusionsIn table (gold.zip predicted)).filter (·.gold == id)).map (·.count)).sum +
          (ClassCount.of (gold.zip predicted) id).hits = (ClassCount.of (gold.zip predicted) id).support) ∧
      ((∀ e ∈ table, ∃ s, e.2 = .str s) → ∃ text, report table gold predicted = .ok text) ∧
      ∀ (number : Float → String) (argv : List String) (arguments : Arguments) (disk : Disk)
        (sample : Sample) (facade : Facade String),
        Arguments.ofWords argv = .ok arguments → Sample.ofFile disk arguments.table = .ok sample →
        facade.labels = table → goldIds table sample.labels = .ok gold →
        (predictIds facade (Script.texts sample) arguments.batchSize).outcome = .ok predicted →
        Concludes number table gold predicted (m.accuracy = 1) (Script.run number disk (.ok facade) argv) := by
  have hperm := perm_sortedIds table
  have hids := hperm.nodup_iff.2 htable
  have hcovered : Covered (LabelTable.sortedIds table) (gold.zip predicted) :=
    covered_zip (fun id hid => hperm.mem_iff.2 (hgold id hid)) fun id hid =>
      hperm.mem_iff.2 (hpredicted id hid)
  have hpairs := zip_ne_nil hlength hne
  have hexamples : (gold.zip predicted).length = gold.length := by
    rw [List.length_zip, ← hlength, Nat.min_self]
  have hpos : (gold.length : ℚ) ≠ 0 := Nat.cast_ne_zero.2 (mt List.length_eq_zero_iff.1 hne)
  have hnonempty : table ≠ [] := by
    obtain ⟨g, hg⟩ := List.exists_mem_of_ne_nil _ hne
    rintro rfl
    exact absurd (hgold g hg) List.not_mem_nil
  obtain ⟨listed, hlisted, htop⟩ := topConfusions_of_covered hlength hne hcovered
  have hsorted := perm_confusionsIn table (gold.zip predicted)
  have hsum : (listed.map Prod.fst).sum + correct (gold.zip predicted) = gold.length := by
    rw [map_fst_of_shows hlisted, ← hexamples, ← sum_counts_add_correct hids hcovered]
    exact congrArg (· + _) (hsorted.map _).sum_eq
  have hflawless : upTo (some defaultTop) listed = [] ↔
      (metricsOf quotientsExact (LabelTable.sortedIds table) (gold.zip predicted)).accuracy = 1 := by
    refine Iff.trans ?_ (accuracy_eq_one_iff hpairs).symm
    rw [← listed_eq_nil_iff htable hcovered hlisted]
    exact (List.take_eq_nil_iff).trans (or_iff_right (by decide))
  refine ⟨_, listed, computeMetricsIn_of_length _ hlength _, htop none, fun n hn => ?_, hsum, ?_, hlisted,
    fun id hid => ?_, Script.exists_report hnonempty hlength, ?_⟩
  · rw [htop, upTo_of_length_le hn]
  · have hcast : ((listed.map Prod.fst).sum : ℚ) + correct (gold.zip predicted) = gold.length := by
      exact_mod_cast hsum
    change _ = (gold.length : ℚ) * (1 - accuracy quotientsExact (gold.zip predicted))
    rw [accuracy_exact hpairs, hexamples, mul_sub, mul_one, mul_div_cancel₀ _ hpos, ← hcast,
      add_sub_cancel_right]
  · rw [← sum_counts_of_gold hids hcovered (hperm.mem_iff.2 hid)]
    exact congrArg (· + _) ((hsorted.filter _).map _).sum_eq
  · intro number argv arguments disk sample facade hargv hsample hlabels hids' hrun
    subst hlabels
    exact concludes_run number hargv hsample hids' hrun hlength (htop (some defaultTop)) hflawless

end

/-- A model of two classes that takes every text to be of the first. -/
def alwaysFirst : Facade String := ⟨sentiment.labels, fun texts => .ok (texts.map fun _ => [1])⟩

theorem outcome_alwaysFirst (texts : List String) {size : Int} (hsize : 1 ≤ size) :
    (predictIds alwaysFirst texts size).outcome = .ok (texts.map fun _ => 0) := by
  have hm : alwaysFirst.Separate (fun _ => [1]) 1 := ⟨fun _ _ => rfl, fun _ => rfl⟩
  rw [outcome_predictIds hm texts hsize, Facade.ids_predict hm, mapM_eq_ok_iff]
  refine List.forall₂_map_right_iff.2 (List.forall₂_same.2 fun text _ => ?_)
  exact Facade.idOfLogits_of_mem (k := 0) rfl (by decide)

/-- One of two rows is predicted wrongly, and the run ends with the confusion. -/
theorem confusions_add_up_of_keptTexts :
    (Entries.keys sentiment.labels).Nodup ∧ [1, 0].length = [0, 0].length ∧ ([1, 0] : List Int) ≠ [] ∧
    ∃ m, computeMetricsIn quotientsExact [1, 0] [0, 0] (some (LabelTable.sortedIds sentiment.labels)) = .ok m ∧
      m.accuracy = 1 / 2 ∧
      (Script.run Decimal.shortest (fileWith keptCsv) (.ok alwaysFirst) ["eval.csv"]).outcome = .ok () ∧
      Concludes Decimal.shortest sentiment.labels [1, 0] [0, 0] (m.accuracy = 1)
        (Script.run Decimal.shortest (fileWith keptCsv) (.ok alwaysFirst) ["eval.csv"]) := by
  have hnodup : (Entries.keys sentiment.labels).Nodup := by decide
  have hlength : ([1, 0] : List Int).length = ([0, 0] : List Int).length := rfl
  have hfile : (fileWith keptCsv).find "eval.csv" = .octets (Text.utf8 keptCsv.toList) := rfl
  obtain ⟨m, listed, hm, -, -, htotal, hsum, -, -, hreport, hrun⟩ :=
    confusions_add_up hnodup hlength (by decide) (by decide) (by decide)
  have hcorrect : correct (([1, 0] : List Int).zip [0, 0]) = 1 := by decide
  have hlisted : (listed.map Prod.fst).sum = 1 := by
    rw [hcorrect] at htotal
    exact Nat.succ.inj htotal
  have hhalf : m.accuracy = 1 / 2 := by
    rw [hlisted] at hsum
    push_cast [List.length_cons, List.length_nil] at hsum
    linarith
  obtain ⟨sample, hsample, htexts, hids⟩ :=
    (readsRows_iff hfile labelledTable_keptTexts).2 faithful_keptTexts
  obtain ⟨text, htext⟩ := hreport distinctTexts_sentiment.strings
  have hconcludes := hrun Decimal.shortest ["eval.csv"] _ _ sample alwaysFirst ofWords_table hsample rfl hids
    (by rw [htexts]; exact outcome_alwaysFirst _ (by decide))
  refine ⟨hnodup, rfl, by decide, m, hm, hhalf, ?_, hconcludes⟩
  obtain ⟨m64, -, hreported, -⟩ := hconcludes
  exact (hreported text htext).1

end SequenceClassification.Evaluation
