import Mathlib.Algebra.BigOperators.Ring.Finset
import Mathlib.Tactic.FieldSimp
import Mathlib.Tactic.Ring
import Mathlib.Tactic.Positivity
import SequenceClassification.Evaluation.Metrics

/-!
Metrics as exact fractions, over classes among which all ids are. Counting the positions class by class
counts each once, so hits, supports and predictions of the classes add up to totals. Main statement: micro
F1 is accuracy, all metrics lie between zero and one, they are one on equal ids as far as every class
occurs, and neither the order of examples and classes nor the names of the classes matter.
-/
namespace SequenceClassification.Evaluation

/-- Exact fractions as quotients. An average over nothing is never asked for where there is an example; its
value here is of no account. -/
def quotientsExact : Quotients ℚ where
  ratio := fun a b => a / b
  undefined := 0
  mean := fun xs => xs.sum / xs.length
  weightedMean := fun xs => (xs.map fun p => p.1 * (p.2 : ℚ)).sum / (xs.map Prod.snd).sum

section
variable {α κ : Type} [DecidableEq κ] {keys : List κ}

theorem sum_map_single (hkeys : keys.Nodup) {k : κ} (hk : k ∈ keys) (n : Nat) :
    (keys.map fun j => if k == j then n else 0).sum = n := by
  have hcount : ∀ js : List κ, (js.map fun j => if k == j then n else 0).sum = js.count k * n := by
    intro js
    induction js with
    | nil => simp
    | cons j js ih =>
      rw [List.map_cons, List.sum_cons, ih, List.count_cons, Nat.add_mul, Nat.add_comm, Bool.beq_comm]
      split <;> simp
  rw [hcount, List.count_eq_one_of_mem hkeys hk, Nat.one_mul]

/-- Counting by keys counts each element once, under its own key. -/
theorem sum_countP_of_keys (hkeys : keys.Nodup) (key : α → κ) (q : α → Bool) (xs : List α)
    (h : ∀ x ∈ xs, q x = true → key x ∈ keys) :
    (keys.map fun k => xs.countP fun x => q x && key x == k).sum = xs.countP q := by
  induction xs with
  | nil => simp
  | cons x xs ih =>
    have hrest := ih fun y hy => h y (List.mem_cons_of_mem _ hy)
    simp only [List.countP_cons, List.sum_map_add, hrest]
    cases hq : q x with
    | false => simp
    | true => simpa using sum_map_single hkeys (h x (List.mem_cons_self ..) hq) 1

end

def Covered (labels : List Int) (outcomes : Outcomes) : Prop :=
  ∀ p ∈ outcomes, p.1 ∈ labels ∧ p.2 ∈ labels

theorem ClassCount.total_eq (counts : List ClassCount) :
    ClassCount.total counts = ⟨(counts.map (·.hits)).sum, (counts.map (·.support)).sum,
      (counts.map (·.predicted)).sum⟩ := by
  induction counts with
  | nil => rfl
  | cons c counts ih =>
    change c.add (ClassCount.total counts) = _
    rw [ih]
    rfl

section
variable {labels : List Int} {outcomes : Outcomes}

theorem sum_hits (hlabels : labels.Nodup) (h : Covered labels outcomes) :
    (labels.map fun id => (ClassCount.of outcomes id).hits).sum = correct outcomes := by
  have hsum := sum_countP_of_keys hlabels Prod.fst (fun p : Int × Int => p.1 == p.2) outcomes
    fun p hp _ => (h p hp).1
  have hclass : ∀ id, (ClassCount.of outcomes id).hits =
      outcomes.countP fun p => (p.1 == p.2) && p.1 == id := by
    intro id
    refine List.countP_congr fun p _ => ?_
    simp only [Bool.and_eq_true, beq_iff_eq]
    omega
  simp only [hclass]
  exact hsum

theorem sum_support (hlabels : labels.Nodup) (h : Covered labels outcomes) :
    (labels.map fun id => (ClassCount.of outcomes id).support).sum = outcomes.length := by
  have hsum := sum_countP_of_keys hlabels Prod.fst (fun _ : Int × Int => true) outcomes
    fun p hp _ => (h p hp).1
  simpa [ClassCount.of] using hsum

theorem sum_predicted (hlabels : labels.Nodup) (h : Covered labels outcomes) :
    (labels.map fun id => (ClassCount.of outcomes id).predicted).sum = outcomes.length := by
  have hsum := sum_countP_of_keys hlabels Prod.snd (fun _ : Int × Int => true) outcomes
    fun p hp _ => (h p hp).2
  simpa [ClassCount.of] using hsum

/-- All classes together have the correct positions as hits and every position as an example and as a
prediction. -/
theorem total_of_covered (hlabels : labels.Nodup) (h : Covered labels outcomes) :
    ClassCount.total (labels.map (ClassCount.of outcomes)) =
      ⟨correct outcomes, outcomes.length, outcomes.length⟩ := by
  simp only [ClassCount.total_eq, List.map_map, Function.comp_def, sum_hits hlabels h,
    sum_support hlabels h, sum_predicted hlabels h]

theorem correct_le_length (outcomes : Outcomes) : correct outcomes ≤ outcomes.length :=
  List.countP_le_length

theorem correct_eq_length_iff : correct outcomes = outcomes.length ↔ ∀ p ∈ outcomes, p.1 = p.2 := by
  simp [correct, List.countP_eq_length]

end

section
variable {labels : List Int} {outcomes : Outcomes}

theorem accuracy_exact (hne : outcomes ≠ []) :
    accuracy quotientsExact outcomes = (correct outcomes : ℚ) / outcomes.length := by
  simp [accuracy, quotientsExact, hne]

theorem accuracy_eq_one_iff (hne : outcomes ≠ []) :
    accuracy quotientsExact outcomes = 1 ↔ correct outcomes = outcomes.length := by
  have hpos : (outcomes.length : ℚ) ≠ 0 := by simpa using hne
  rw [accuracy_exact hne, div_eq_one_iff_eq hpos, Nat.cast_inj]

theorem microF1_exact (hlabels : labels.Nodup) (h : Covered labels outcomes) (hne : outcomes ≠ []) :
    (metricsOf quotientsExact labels outcomes).microF1 = accuracy quotientsExact outcomes := by
  have hlength : (outcomes.length : ℚ) ≠ 0 := by simpa using hne
  rw [accuracy_exact hne]
  simp only [metricsOf, total_of_covered hlabels h, ClassCount.f1, quotientsExact]
  push_cast
  field_simp
  ring

end

def IsPart (x : ℚ) : Prop := 0 ≤ x ∧ x ≤ 1

theorem isPart_div {a b : Nat} (h : a ≤ b) : IsPart (a / b) := by
  have hle : (a : ℚ) ≤ b := by exact_mod_cast h
  exact ⟨by positivity, div_le_one_of_le₀ hle (by positivity)⟩

theorem isPart_mean {xs : List ℚ} (h : ∀ x ∈ xs, IsPart x) : IsPart (xs.sum / xs.length) := by
  have hsum : xs.sum ≤ xs.length := by
    simpa using List.sum_le_card_nsmul xs 1 fun x hx => (h x hx).2
  have hnonneg : 0 ≤ xs.sum := List.sum_nonneg fun x hx => (h x hx).1
  exact ⟨by positivity, div_le_one_of_le₀ hsum (by positivity)⟩

theorem isPart_weightedMean {xs : List (ℚ × Nat)} (h : ∀ x ∈ xs, IsPart x.1) :
    IsPart (quotientsExact.weightedMean xs) := by
  have hnonneg : 0 ≤ (xs.map fun p => p.1 * (p.2 : ℚ)).sum := by
    refine List.sum_nonneg fun x hx => ?_
    obtain ⟨p, hp, rfl⟩ := List.mem_map.1 hx
    exact mul_nonneg (h p hp).1 (by positivity)
  have hle : (xs.map fun p => p.1 * (p.2 : ℚ)).sum ≤ (xs.map Prod.snd).sum := by
    rw [Nat.cast_list_sum, List.map_map]
    refine List.sum_le_sum fun p hp => ?_
    exact mul_le_of_le_one_left (by positivity) (h p hp).2
  exact ⟨by unfold quotientsExact; positivity, div_le_one_of_le₀ hle (by positivity)⟩

/-- The F1 score of a class that has no more hits than examples or predictions. -/
theorem ClassCount.isPart_f1 {c : ClassCount} (hsupport : c.hits ≤ c.support)
    (hpredicted : c.hits ≤ c.predicted) : IsPart (c.f1 quotientsExact) :=
  isPart_div (by omega)

section
variable {labels : List Int} {outcomes : Outcomes}

theorem isPart_of_mem_scores {x : ℚ}
    (hx : x ∈ (labels.map (ClassCount.of outcomes)).map (ClassCount.f1 quotientsExact)) : IsPart x := by
  obtain ⟨c, hc, rfl⟩ := List.mem_map.1 hx
  obtain ⟨id, -, rfl⟩ := List.mem_map.1 hc
  obtain ⟨hsupport, hpredicted⟩ := ClassCount.hits_le outcomes id
  exact ClassCount.isPart_f1 hsupport hpredicted

theorem isPart_macroF1 : IsPart (metricsOf quotientsExact labels outcomes).macroF1 := by
  simp only [metricsOf, macroAverage]
  split
  · exact ⟨le_refl 0, zero_le_one⟩
  · exact isPart_mean fun x hx => isPart_of_mem_scores hx

theorem isPart_weightedF1 : IsPart (metricsOf quotientsExact labels outcomes).weightedF1 := by
  simp only [metricsOf, weightedAverage]
  split
  · exact ⟨le_refl 0, zero_le_one⟩
  · split
    · exact isPart_mean fun x hx => isPart_of_mem_scores hx
    · refine isPart_weightedMean fun x hx => ?_
      obtain ⟨c, hc, rfl⟩ := List.mem_map.1 hx
      exact isPart_of_mem_scores (List.mem_map.2 ⟨c, hc, rfl⟩)

end

section
variable {outcomes : Outcomes}

theorem counts_of_equal (h : ∀ p ∈ outcomes, p.1 = p.2) (id : Int) :
    (ClassCount.of outcomes id).hits = (ClassCount.of outcomes id).support ∧
      (ClassCount.of outcomes id).predicted = (ClassCount.of outcomes id).support := by
  constructor
  · refine List.countP_congr fun p hp => ?_
    simp [h p hp]
  · refine List.countP_congr fun p hp => ?_
    simp [h p hp]

/-- On equal ids a class that occurs is perfect, and one that does not counts as nothing. -/
theorem f1_of_equal (h : ∀ p ∈ outcomes, p.1 = p.2) (id : Int) :
    (ClassCount.of outcomes id).f1 quotientsExact =
      if (ClassCount.of outcomes id).support = 0 then 0 else 1 := by
  obtain ⟨hhits, hpredicted⟩ := counts_of_equal h id
  simp only [ClassCount.f1, quotientsExact, hhits, hpredicted]
  split
  · rename_i hzero
    simp [hzero]
  · rename_i hpos
    have hne : ((ClassCount.of outcomes id).support : ℚ) ≠ 0 := by exact_mod_cast hpos
    push_cast
    field_simp
    ring

theorem support_eq_zero_iff (id : Int) :
    (ClassCount.of outcomes id).support = 0 ↔ id ∉ outcomes.map Prod.fst := by
  simp only [ClassCount.of, List.countP_eq_zero, beq_iff_eq, List.mem_map, not_exists, not_and]

variable {labels : List Int}

theorem macroF1_of_equal (hlabels : labels.Nodup) (hcovered : Covered labels outcomes)
    (hne : outcomes ≠ []) (h : ∀ p ∈ outcomes, p.1 = p.2) :
    (metricsOf quotientsExact labels outcomes).macroF1 =
      ((outcomes.map Prod.fst).toFinset.card : ℚ) / labels.length := by
  obtain ⟨p, rest, rfl⟩ := List.exists_cons_of_ne_nil hne
  have hsome : labels ≠ [] := List.ne_nil_of_mem (hcovered p (List.mem_cons_self ..)).1
  have hoccurring : labels.toFinset.filter (fun id => id ∈ (p :: rest).map Prod.fst) =
      ((p :: rest).map Prod.fst).toFinset := by
    ext id
    simp only [Finset.mem_filter, List.mem_toFinset, and_iff_right_iff_imp]
    intro hid
    obtain ⟨q, hq, rfl⟩ := List.mem_map.1 hid
    exact (hcovered q hq).1
  have hsum : (labels.map fun id => (ClassCount.of (p :: rest) id).f1 quotientsExact).sum =
      ((p :: rest).map Prod.fst).toFinset.card := by
    simp only [f1_of_equal h, support_eq_zero_iff, ite_not]
    rw [← List.sum_toFinset _ hlabels, Finset.sum_boole, hoccurring]
  simp only [metricsOf, macroAverage, List.isEmpty_iff, List.map_eq_nil_iff, if_neg hsome]
  simp only [quotientsExact, List.map_map, List.length_map, Function.comp_def] at hsum ⊢
  rw [hsum]

theorem weightedF1_of_equal (hlabels : labels.Nodup) (hcovered : Covered labels outcomes)
    (hne : outcomes ≠ []) (h : ∀ p ∈ outcomes, p.1 = p.2) :
    (metricsOf quotientsExact labels outcomes).weightedF1 = 1 := by
  have hlength : outcomes.length ≠ 0 := by simpa using hne
  have hsome : labels ≠ [] := by
    rintro rfl
    exact hlength (by simpa using (sum_support hlabels hcovered).symm)
  have hweight : ∀ id, (ClassCount.of outcomes id).f1 quotientsExact *
      ((ClassCount.of outcomes id).support : ℚ) = (ClassCount.of outcomes id).support := by
    intro id
    rw [f1_of_equal h]
    split
    · rename_i hzero
      simp [hzero]
    · rw [one_mul]
  have htotal : ((labels.map fun id => (ClassCount.of outcomes id).support).sum : ℚ) ≠ 0 := by
    rw [sum_support hlabels hcovered]
    exact_mod_cast hlength
  simp only [metricsOf, weightedAverage, List.isEmpty_iff, List.map_eq_nil_iff, if_neg hsome,
    total_of_covered hlabels hcovered, beq_iff_eq, if_neg hlength]
  simp only [quotientsExact, List.map_map, Function.comp_def] at hweight htotal ⊢
  simp only [hweight]
  rw [Nat.cast_list_sum, List.map_map] at htotal ⊢
  exact div_self htotal

end

section
variable {counts counts' : List ClassCount}

theorem ClassCount.total_perm (h : counts.Perm counts') :
    ClassCount.total counts = ClassCount.total counts' := by
  simp only [ClassCount.total_eq, (h.map _).sum_eq]

theorem macroAverage_perm (h : counts.Perm counts') (score : ClassCount → ℚ) :
    macroAverage quotientsExact score counts = macroAverage quotientsExact score counts' := by
  simp only [macroAverage, List.isEmpty_iff, ← List.length_eq_zero_iff, h.length_eq, quotientsExact,
    (h.map _).sum_eq, List.length_map]

theorem weightedAverage_perm (h : counts.Perm counts') (score : ClassCount → ℚ) :
    weightedAverage quotientsExact score counts = weightedAverage quotientsExact score counts' := by
  simp only [weightedAverage, List.isEmpty_iff, ← List.length_eq_zero_iff, h.length_eq,
    ClassCount.total_perm h, quotientsExact, (h.map _).sum_eq, List.length_map, List.map_map]

/-- The metrics see the classes through their counts alone, and not the order of these. -/
theorem metricsOf_congr {labels labels' : List Int} {outcomes outcomes' : Outcomes}
    (hcounts : (labels.map (ClassCount.of outcomes)).Perm (labels'.map (ClassCount.of outcomes')))
    (hcorrect : correct outcomes = correct outcomes') (hlength : outcomes.length = outcomes'.length) :
    metricsOf quotientsExact labels outcomes = metricsOf quotientsExact labels' outcomes' := by
  have haccuracy : accuracy quotientsExact outcomes = accuracy quotientsExact outcomes' := by
    simp only [accuracy, List.isEmpty_iff, ← List.length_eq_zero_iff, hlength, hcorrect]
  simp only [metricsOf, haccuracy, macroAverage_perm hcounts, weightedAverage_perm hcounts,
    ClassCount.total_perm hcounts]

end

theorem pairUp_of_length {gold predicted : List Int} (h : gold.length = predicted.length) :
    pairUp gold predicted = .ok (gold.zip predicted) := by
  simp [pairUp, h]

theorem computeMetricsIn_of_length {α : Type} (Q : Quotients α) {gold predicted : List Int}
    (h : gold.length = predicted.length) (labels : List Int) :
    computeMetricsIn Q gold predicted (some labels) = .ok (metricsOf Q labels (gold.zip predicted)) := by
  rw [computeMetricsIn, pairUp_of_length h]
  rfl

theorem zip_ne_nil {gold predicted : List Int} (hlength : gold.length = predicted.length)
    (hne : gold ≠ []) : gold.zip predicted ≠ [] := by
  intro h
  have hzero := congrArg List.length h
  rw [List.length_zip, ← hlength, Nat.min_self] at hzero
  exact hne (List.length_eq_zero_iff.1 hzero)

theorem forall_zip_eq_iff {gold predicted : List Int} (h : gold.length = predicted.length) :
    (∀ p ∈ gold.zip predicted, p.1 = p.2) ↔ gold = predicted := by
  induction gold generalizing predicted with
  | nil => simp [List.length_eq_zero_iff.1 h.symm]
  | cons g gold ih =>
    cases predicted with
    | nil => cases h
    | cons p predicted =>
      rw [List.zip_cons_cons, List.forall_mem_cons, ih (Nat.succ.inj h), List.cons.injEq]

theorem covered_zip {gold predicted labels : List Int} (hgold : ∀ id ∈ gold, id ∈ labels)
    (hpredicted : ∀ id ∈ predicted, id ∈ labels) : Covered labels (gold.zip predicted) :=
  fun _ hp => ⟨hgold _ (List.of_mem_zip hp).1, hpredicted _ (List.of_mem_zip hp).2⟩

section
variable {labels : List Int} {outcomes outcomes' : Outcomes}

theorem counts_perm (h : outcomes'.Perm outcomes) (id : Int) :
    ClassCount.of outcomes' id = ClassCount.of outcomes id := by
  simp only [ClassCount.of, h.countP_eq]

/-- A renaming that keeps the classes apart keeps their counts. -/
theorem counts_rename {f : Int → Int} (hf : ∀ a ∈ labels, ∀ b ∈ labels, f a = f b → a = b)
    (hcovered : Covered labels outcomes) {id : Int} (hid : id ∈ labels) :
    ClassCount.of (outcomes.map (Prod.map f f)) (f id) = ClassCount.of outcomes id := by
  have hfirst : ∀ p ∈ outcomes, (f p.1 == f id) = (p.1 == id) := by
    intro p hp
    rw [Bool.eq_iff_iff, beq_iff_eq, beq_iff_eq]
    exact ⟨hf _ (hcovered p hp).1 _ hid, congrArg f⟩
  have hsecond : ∀ p ∈ outcomes, (f p.2 == f id) = (p.2 == id) := by
    intro p hp
    rw [Bool.eq_iff_iff, beq_iff_eq, beq_iff_eq]
    exact ⟨hf _ (hcovered p hp).2 _ hid, congrArg f⟩
  simp only [ClassCount.of, List.countP_map, ClassCount.mk.injEq]
  refine ⟨?_, ?_, ?_⟩
  · exact List.countP_congr fun p hp => by simp [hfirst p hp, hsecond p hp]
  · exact List.countP_congr fun p hp => by simp [hfirst p hp]
  · exact List.countP_congr fun p hp => by simp [hsecond p hp]

theorem correct_rename {f : Int → Int} (hf : ∀ a ∈ labels, ∀ b ∈ labels, f a = f b → a = b)
    (hcovered : Covered labels outcomes) :
    correct (outcomes.map (Prod.map f f)) = correct outcomes := by
  simp only [correct, List.countP_map]
  refine List.countP_congr fun p hp => ?_
  simp only [Function.comp_apply, Prod.map_fst, Prod.map_snd, beq_iff_eq]
  exact ⟨hf _ (hcovered p hp).1 _ (hcovered p hp).2, congrArg f⟩

end

/-- The metrics of ids over distinct classes among which they all are. Micro F1 is accuracy; every metric
is a fraction from zero to one; accuracy is one exactly on equal ids, where micro and weighted F1 are one
too and macro F1 is the part of the classes that occur. The order of the examples, the order of the classes
and the names of the classes do not matter. -/
theorem metrics_exact {gold predicted labels : List Int} (hlength : gold.length = predicted.length)
    (hne : gold ≠ []) (hlabels : labels.Nodup) (hgold : ∀ id ∈ gold, id ∈ labels)
    (hpredicted : ∀ id ∈ predicted, id ∈ labels) :
    ∃ m, computeMetricsIn quotientsExact gold predicted (some labels) = .ok m ∧
      m.microF1 = m.accuracy ∧
      (IsPart m.accuracy ∧ IsPart m.macroF1 ∧ IsPart m.microF1 ∧ IsPart m.weightedF1) ∧
      (m.accuracy = 1 ↔ gold = predicted) ∧
      (gold = predicted → m.microF1 = 1 ∧ m.weightedF1 = 1 ∧
        m.macroF1 = ((gold ++ predicted).toFinset.card : ℚ) / labels.length) ∧
      (∀ gold' predicted' : List Int, gold'.length = predicted'.length →
        (gold'.zip predicted').Perm (gold.zip predicted) →
        computeMetricsIn quotientsExact gold' predicted' (some labels) = .ok m) ∧
      (∀ labels' : List Int, labels'.Perm labels →
        computeMetricsIn quotientsExact gold predicted (some labels') = .ok m) ∧
      ∀ f : Int → Int, (∀ a ∈ labels, ∀ b ∈ labels, f a = f b → a = b) →
        computeMetricsIn quotientsExact (gold.map f) (predicted.map f) (some (labels.map f)) = .ok m := by
  have hcovered : Covered labels (gold.zip predicted) := covered_zip hgold hpredicted
  have hpairs : gold.zip predicted ≠ [] := zip_ne_nil hlength hne
  have hmicro : (metricsOf quotientsExact labels (gold.zip predicted)).microF1 =
      (metricsOf quotientsExact labels (gold.zip predicted)).accuracy :=
    microF1_exact hlabels hcovered hpairs
  have hpart : IsPart (metricsOf quotientsExact labels (gold.zip predicted)).accuracy := by
    change IsPart (accuracy quotientsExact (gold.zip predicted))
    rw [accuracy_exact hpairs]
    exact isPart_div (correct_le_length _)
  have hone : (metricsOf quotientsExact labels (gold.zip predicted)).accuracy = 1 ↔ gold = predicted :=
    (accuracy_eq_one_iff hpairs).trans (correct_eq_length_iff.trans (forall_zip_eq_iff hlength))
  refine ⟨_, computeMetricsIn_of_length _ hlength labels, hmicro,
    ⟨hpart, isPart_macroF1, hmicro ▸ hpart, isPart_weightedF1⟩, hone, ?_, ?_, ?_, ?_⟩
  · intro hequal
    have hall := (forall_zip_eq_iff hlength).2 hequal
    have hfirst : (gold.zip predicted).map Prod.fst = gold := List.map_fst_zip (by omega)
    refine ⟨hmicro.trans (hone.2 hequal), weightedF1_of_equal hlabels hcovered hpairs hall, ?_⟩
    rw [macroF1_of_equal hlabels hcovered hpairs hall, hfirst, ← hequal, List.toFinset_append,
      Finset.union_self]
  · intro gold' predicted' hlength' hperm
    rw [computeMetricsIn_of_length _ hlength']
    refine congrArg Except.ok (metricsOf_congr ?_ (hperm.countP_eq _) hperm.length_eq)
    exact List.Perm.of_eq (List.map_congr_left fun id _ => counts_perm hperm id)
  · intro labels' hperm
    rw [computeMetricsIn_of_length _ hlength]
    exact congrArg Except.ok (metricsOf_congr (hperm.map _) rfl rfl)
  · intro f hf
    have hlength' : (gold.map f).length = (predicted.map f).length := by simpa using hlength
    rw [computeMetricsIn_of_length _ hlength', List.zip_map]
    refine congrArg Except.ok (metricsOf_congr ?_ (correct_rename hf hcovered) (List.length_map _))
    rw [List.map_map]
    exact List.Perm.of_eq (List.map_congr_left fun id hid => counts_rename hf hcovered hid)

/-- Two classes of four never occur, and one is predicted once for another. -/
theorem metrics_exact_of_rareClasses :
    [3, 3, -1].length = [3, -1, -1].length ∧ ([3, 3, -1] : List Int) ≠ [] ∧
    ([7, -1, 3, 0] : List Int).Nodup ∧
    ∃ m, computeMetricsIn quotientsExact [3, 3, -1] [3, -1, -1] (some [7, -1, 3, 0]) = .ok m ∧
      m.microF1 = m.accuracy ∧ m.accuracy ≠ 1 ∧
      computeMetricsIn quotientsExact [-1, 3, 3] [-1, 3, -1] (some [7, -1, 3, 0]) = .ok m := by
  have hlength : ([3, 3, -1] : List Int).length = ([3, -1, -1] : List Int).length := rfl
  have hnodup : ([7, -1, 3, 0] : List Int).Nodup := by decide
  obtain ⟨m, hm, hmicro, -, hone, -, hexamples, -⟩ :=
    metrics_exact hlength (by decide) hnodup (by decide) (by decide)
  exact ⟨rfl, by decide, hnodup, m, hm, hmicro, fun h => absurd (hone.1 h) (by decide),
    hexamples _ _ rfl (by decide)⟩

end SequenceClassification.Evaluation
