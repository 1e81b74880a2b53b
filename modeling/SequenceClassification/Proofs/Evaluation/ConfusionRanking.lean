import Mathlib
import SequenceClassification.Proofs.Evaluation.ConfusionTotals
import SequenceClassification.Proofs.Sorting

/-!
The order of the confusions. They are collected by gold id and then by predicted id, and sorted by frequency
alone; a stable sort leaves the order of the ids among the equally frequent ones. Main statement: what is
asked for of the confusions is cut from one list that has an entry for each pair of different classes that
occurs, ranked by frequency and then by the ids.
-/
namespace SequenceClassification

/-- The distinct ids of a table, sorted, are strictly increasing. -/
theorem LabelTable.pairwise_sortedIds {table : LabelTable} (h : (Entries.keys table).Nodup) :
    (LabelTable.sortedIds table).Pairwise (· < ·) := by
  have hsorted : (LabelTable.sortedIds table).Pairwise (· ≤ ·) :=
    pairwise_mergeSort_of_linear (fun _ _ => decide_eq_true_iff) _
  have hnodup : (LabelTable.sortedIds table).Nodup := (List.mergeSort_perm _ _).nodup_iff.2 h
  exact (hsorted.and hnodup).imp fun hab => lt_of_le_of_ne hab.1 hab.2

namespace Evaluation

namespace Confusion

/-- The order by gold id and then by predicted id. -/
def IdsBefore (a b : Confusion) : Prop :=
  a.gold < b.gold ∨ a.gold = b.gold ∧ a.predicted < b.predicted

/-- The order by frequency, the most frequent first, and then by the ids. -/
def Before (a b : Confusion) : Prop := b.count < a.count ∨ a.count = b.count ∧ a.IdsBefore b

end Confusion

/-- The positions at which both ids are among the classes. -/
def within (ids : List Int) (outcomes : Outcomes) : Outcomes :=
  outcomes.filter fun p => decide (p.1 ∈ ids) && decide (p.2 ∈ ids)

/-- The confusions between classes of the table: one for every pair of different classes that occurs together,
with the number of its positions, in the order by frequency and then by the ids. Positions with an id outside
the table are not counted. -/
structure Ranking (table : LabelTable) (outcomes : Outcomes) (confusions : List Confusion) : Prop where
  mem_iff : ∀ c, c ∈ confusions ↔ c.gold ∈ Entries.keys table ∧ c.predicted ∈ Entries.keys table ∧
    c.gold ≠ c.predicted ∧ c.count = outcomes.count (c.gold, c.predicted) ∧ 0 < c.count
  distinct : (confusions.map fun c => (c.gold, c.predicted)).Nodup
  ordered : confusions.Pairwise Confusion.Before
  counted : (confusions.map (·.count)).sum = (within (Entries.keys table) outcomes).countP fun p => p.1 != p.2

section
variable {ids : List Int} {outcomes : Outcomes}

theorem pairwise_confusionRow (hids : ids.Pairwise (· < ·)) (outcomes : Outcomes) (gold : Int) :
    (confusionRow ids outcomes gold).Pairwise fun a b => a.predicted < b.predicted := by
  refine List.pairwise_filterMap.2 (hids.imp fun hlt c hc d hd => ?_)
  rw [Option.ite_none_right_eq_some] at hc hd
  rw [← Option.some.inj hc.2, ← Option.some.inj hd.2]
  exact hlt

/-- Over increasing ids the confusions are collected in the order of their ids. -/
theorem pairwise_confusionsOf (hids : ids.Pairwise (· < ·)) (outcomes : Outcomes) :
    (confusionsOf ids outcomes).Pairwise Confusion.IdsBefore := by
  rw [confusionsOf_eq, List.pairwise_flatMap]
  constructor
  · intro gold _
    refine List.Pairwise.imp_of_mem (fun ha hb hlt => ?_) (pairwise_confusionRow hids outcomes gold)
    exact .inr ⟨(mem_confusionRow ha).1.trans (mem_confusionRow hb).1.symm, hlt⟩
  · refine hids.imp fun hlt a ha b hb => .inl ?_
    rwa [(mem_confusionRow ha).1, (mem_confusionRow hb).1]

/-- A stable sort by frequency leaves the order of the ids among the equally frequent. -/
theorem pairwise_byFrequency {confusions : List Confusion} (h : confusions.Pairwise Confusion.IdsBefore) :
    (byFrequency confusions).Pairwise Confusion.Before := by
  let le (a b : Confusion) : Bool := decide (b.count ≤ a.count)
  have htrans : ∀ a b c, le a b = true → le b c = true → le a c = true := by
    intro a b c
    simp only [le, decide_eq_true_eq]
    omega
  have htotal : ∀ a b, (le a b || le b a) = true := by
    intro a b
    simp only [le, Bool.or_eq_true, decide_eq_true_eq]
    omega
  refine (pairwise_mergeSort_of_pairwise htrans htotal h).imp fun {a b} hab => ?_
  obtain ⟨hle, htied⟩ := hab
  rw [decide_eq_true_iff] at hle htied
  rcases hle.lt_or_eq with hlt | heq
  · exact .inl hlt
  · exact .inr ⟨heq.symm, htied heq.ge⟩

theorem mem_within {p : Int × Int} : p ∈ within ids outcomes ↔ p ∈ outcomes ∧ p.1 ∈ ids ∧ p.2 ∈ ids := by
  rw [within, List.mem_filter, Bool.and_eq_true, decide_eq_true_eq, decide_eq_true_eq]

theorem within_perm {ids' : List Int} (h : ids.Perm ids') (outcomes : Outcomes) :
    within ids outcomes = within ids' outcomes := by
  simp only [within, h.mem_iff]

/-- Positions at which an id is none of the classes are not counted. -/
theorem confusionsOf_within (ids : List Int) (outcomes : Outcomes) :
    confusionsOf ids (within ids outcomes) = confusionsOf ids outcomes := by
  refine List.flatMap_congr fun gold hgold => List.filterMap_congr fun predicted hpredicted => ?_
  have hcount : ((within ids outcomes).countP fun p => p.1 == gold && p.2 == predicted) =
      outcomes.countP fun p => p.1 == gold && p.2 == predicted := by
    rw [within, List.countP_filter]
    refine List.countP_congr fun p _ => ?_
    simp only [Bool.and_eq_true, beq_iff_eq, decide_eq_true_eq]
    exact ⟨fun h => h.1, fun h => ⟨h, h.1 ▸ hgold, h.2 ▸ hpredicted⟩⟩
  simp only [hcount]

/-- The confusions add up to the positions with two different classes. -/
theorem sum_counts (hids : ids.Nodup) (outcomes : Outcomes) :
    ((confusionsOf ids outcomes).map (·.count)).sum =
      (within ids outcomes).countP fun p => p.1 != p.2 := by
  have hcovered : Covered ids (within ids outcomes) := fun p hp => (mem_within.1 hp).2
  have htotal := sum_counts_add_correct hids hcovered
  have hpositions : (within ids outcomes).length =
      correct (within ids outcomes) + (within ids outcomes).countP fun p => p.1 != p.2 := by
    rw [correct, List.length_eq_countP_add_countP (fun p : Int × Int => p.1 == p.2)]
    exact congrArg _ (List.countP_congr fun p _ => by simp)
  rw [confusionsOf_within] at htotal
  omega

end

section
variable {table : LabelTable} {outcomes : Outcomes} {confusions : List Confusion}

/-- The confusions of a table with distinct ids, sorted by frequency, are a ranking. -/
theorem ranking_confusionsIn (htable : (Entries.keys table).Nodup) (outcomes : Outcomes) :
    Ranking table outcomes (confusionsIn table outcomes) := by
  have hkeys := perm_sortedIds table
  have hids := LabelTable.pairwise_sortedIds htable
  have hperm := perm_confusionsIn table outcomes
  have hcollected := pairwise_confusionsOf hids outcomes
  refine ⟨fun c => ?_, ?_, pairwise_byFrequency hcollected, ?_⟩
  · rw [hperm.mem_iff, mem_confusionsOf, hkeys.mem_iff, hkeys.mem_iff]
  · refine ((hperm.map _).nodup_iff).2 (List.pairwise_map.2 (hcollected.imp fun hbefore heq => ?_))
    have hgold := congrArg Prod.fst heq
    have hpredicted := congrArg Prod.snd heq
    unfold Confusion.IdsBefore at hbefore
    dsimp only at hgold hpredicted
    omega
  · rw [(hperm.map (·.count)).sum_eq, sum_counts (hkeys.nodup_iff.2 htable)]
    rw [within_perm hkeys]

/-- A ranking is the only one. -/
theorem Ranking.unique {confusions' : List Confusion} (h : Ranking table outcomes confusions)
    (h' : Ranking table outcomes confusions') : confusions = confusions' := by
  have hperm : confusions.Perm confusions' :=
    (List.perm_ext_iff_of_nodup (List.Nodup.of_map _ h.distinct) (List.Nodup.of_map _ h'.distinct)).2
      fun c => (h.mem_iff c).trans (h'.mem_iff c).symm
  refine hperm.eq_of_pairwise (fun a b _ _ hab hba => ?_) h.ordered h'.ordered
  unfold Confusion.Before Confusion.IdsBefore at hab hba
  omega

end

/-- Where a list is cut that is asked for up to a position, a negative one counting from its end. -/
def cutAt (top : Int) (length : Nat) : Nat := (if 0 ≤ top then top else length + top).toNat

theorem upTo_some {α : Type} (top : Int) (xs : List α) : upTo (some top) xs = xs.take (cutAt top xs.length) := by
  rw [upTo, cutAt]
  by_cases h : top < 0
  · rw [if_pos h, if_neg (by omega)]
    congr 1
    omega
  · rw [if_neg h, if_pos (by omega)]

section
variable {table : LabelTable} {gold predicted : List Int}

theorem pairwise_listed {confusions : List Confusion} {listed : List (Nat × Json × Json)}
    (h : List.Forall₂ (Shows table) confusions listed) (hordered : confusions.Pairwise Confusion.Before) :
    listed.Pairwise fun a b => b.1 ≤ a.1 := by
  have hsorted : (listed.map Prod.fst).Pairwise fun a b => b ≤ a := by
    rw [map_fst_of_shows h, List.pairwise_map]
    exact hordered.imp fun hbefore => hbefore.elim Nat.le_of_lt fun h => h.1.ge
  exact List.pairwise_map.1 hsorted

/-- The most frequent confusions are cut from a ranking of all of them. If the table has a class and the gold
ids, unless there are none, have one of its classes among them, there is one list, with the texts of a
ranking, from which every number of confusions is cut; so nothing that is left out is more frequent than
what is listed. -/
theorem topConfusions_ranked (hids : (Entries.keys table).Nodup) (htable : table ≠ [])
    (hlength : gold.length = predicted.length) (hgold : gold = [] ∨ ∃ id ∈ gold, id ∈ Entries.keys table) :
    ∃ confusions listed, Ranking table (gold.zip predicted) confusions ∧
      List.Forall₂ (Shows table) confusions listed ∧
      ∀ top : Int,
        topConfusions table gold predicted (some top) = .ok (listed.take (cutAt top listed.length)) ∧
        ∀ shown ∈ listed.take (cutAt top listed.length), ∀ omitted ∈ listed.drop (cutAt top listed.length),
          omitted.1 ≤ shown.1 := by
  obtain ⟨listed, hlisted, htop⟩ := exists_topConfusions htable hlength hgold
  have hranking := ranking_confusionsIn hids (gold.zip predicted)
  refine ⟨_, listed, hranking, hlisted, fun top => ⟨?_, ?_⟩⟩
  · rw [htop, upTo_some]
  · have hsorted := pairwise_listed hlisted hranking.ordered
    rw [← List.take_append_drop (cutAt top listed.length) listed, List.pairwise_append] at hsorted
    exact hsorted.2.2

end

/-- Classes with ids of which two have the same text. -/
def doubled : LabelTable := [(7, .str "calm"), (-2, .str "loud"), (3, .str "calm")]

/-- The two classes of the same text have entries of their own, equally frequent confusions are listed by
their ids, a negative number leaves out that many from the end, and ids outside the table do not count. -/
theorem topConfusions_ranked_of_doubled :
    (Entries.keys doubled).Nodup ∧
    ∃ confusions listed,
      Ranking doubled ([7, 3, 7, 5, 3, -2, 7].zip [3, 7, -2, 7, 7, 7, 9]) confusions ∧
      List.Forall₂ (Shows doubled) confusions listed ∧ confusions.length = 4 ∧
      topConfusions doubled [7, 3, 7, 5, 3, -2, 7] [3, 7, -2, 7, 7, 7, 9] (some (-1)) =
        .ok [(2, .str "calm", .str "calm"), (1, .str "loud", .str "calm"), (1, .str "calm", .str "loud")] := by
  have hids : (Entries.keys doubled).Nodup := by decide
  have hlength : ([7, 3, 7, 5, 3, -2, 7] : List Int).length = ([3, 7, -2, 7, 7, 7, 9] : List Int).length := rfl
  obtain ⟨confusions, listed, hranking, hlisted, htop⟩ :=
    topConfusions_ranked hids (List.cons_ne_nil _ _) hlength (.inr ⟨7, by decide, by decide⟩)
  have hcut : topConfusions doubled [7, 3, 7, 5, 3, -2, 7] [3, 7, -2, 7, 7, 7, 9] (some (-1)) =
      .ok [(2, .str "calm", .str "calm"), (1, .str "loud", .str "calm"), (1, .str "calm", .str "loud")] := by
    cbv
  refine ⟨hids, confusions, listed, hranking, hlisted, ?_, hcut⟩
  have hthree := congrArg List.length (Except.ok.inj ((htop (-1)).1.symm.trans hcut))
  rw [List.length_take, cutAt] at hthree
  rw [hlisted.length_eq]
  simp at hthree
  omega

end Evaluation
end SequenceClassification
