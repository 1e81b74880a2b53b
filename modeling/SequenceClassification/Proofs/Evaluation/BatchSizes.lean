import SequenceClassification.Proofs.Evaluation.Batching

/-!
Batches of every size. A batch begins at each multiple of the size on the way from zero to the number of
texts; on the way of a negative size there is none. Main statement: a run that returns has an id for each
text exactly if the size is positive or there are no texts.
-/
namespace SequenceClassification.Evaluation

variable {τ : Type}

/-- The multiple of the size lies on the way from zero to the number of texts. -/
def OnTheWay (size : Int) (count i : Nat) : Prop :=
  (0 < size ∧ i * size < count) ∨ (size < 0 ∧ (count : Int) < i * size)

theorem not_onTheWay_of_neg {size : Int} (h : size < 0) (count i : Nat) : ¬ OnTheWay size count i := by
  rintro (⟨hpos, -⟩ | ⟨-, hfar⟩)
  · omega
  · have hback : (i : Int) * size ≤ 0 :=
      Int.mul_nonpos_of_nonneg_of_nonpos (Int.natCast_nonneg i) (Int.le_of_lt h)
    omega

theorem onTheWay_succ_iff (k count i : Nat) :
    OnTheWay ((k + 1 : Nat) : Int) count i ↔ i * (k + 1) < count := by
  have hcast : (i : Int) * ((k + 1 : Nat) : Int) = ((i * (k + 1) : Nat) : Int) := by push_cast; rfl
  unfold OnTheWay
  rw [hcast]
  omega

def sliceAt (size : Int) (texts : List τ) (i : Nat) : List τ :=
  (texts.drop (i * size).toNat).take size.toNat

theorem getElem?_slicesOf (k : Nat) (texts : List τ) (i : Nat) :
    (slicesOf k texts)[i]? =
      if i * (k + 1) < texts.length then some ((texts.drop (i * (k + 1))).take (k + 1)) else none := by
  fun_induction slicesOf k texts generalizing i with
  | case1 => simp
  | case2 x rest ih =>
    cases i with
    | zero => simp
    | succ i =>
      have hstart : (i + 1) * (k + 1) = i * (k + 1) + k + 1 := Nat.succ_mul i (k + 1)
      have hdrop : (x :: rest).drop ((i + 1) * (k + 1)) = (rest.drop k).drop (i * (k + 1)) := by
        rw [hstart, List.drop_succ_cons, List.drop_drop, Nat.add_comm]
      rw [List.getElem?_cons_succ, ih, hdrop, List.length_drop, List.length_cons, hstart]
      have hroom : i * (k + 1) < rest.length - k ↔ i * (k + 1) + k + 1 < rest.length + 1 := by omega
      simp only [hroom]

/-- For every size but zero there are the batches that begin on the way, in their order, and no others. -/
theorem exists_batches {size : Int} (h : size ≠ 0) (texts : List τ) :
    ∃ slices, batches size texts = .ok slices ∧ ∀ i,
      (OnTheWay size texts.length i → slices[i]? = some (sliceAt size texts i)) ∧
        (¬ OnTheWay size texts.length i → slices[i]? = none) := by
  have hzero : (size == 0) = false := beq_eq_false_iff_ne.2 h
  rcases Int.lt_or_gt_of_ne h with hneg | hpos
  · refine ⟨[], by simp only [batches, hzero, hneg, if_true, Bool.false_eq_true, if_false], fun i => ?_⟩
    exact ⟨fun hway => absurd hway (not_onTheWay_of_neg hneg _ _), fun _ => rfl⟩
  · obtain ⟨k, rfl⟩ : ∃ k : Nat, size = ((k + 1 : Nat) : Int) := ⟨size.toNat - 1, by omega⟩
    refine ⟨slicesOf k texts, ?_, fun i => ?_⟩
    · simp only [batches, hzero, Int.not_lt.2 (Int.le_of_lt hpos), Bool.false_eq_true, if_false,
        Int.toNat_natCast, Nat.add_sub_cancel]
    · have hplace : ((i : Int) * ((k + 1 : Nat) : Int)).toNat = i * (k + 1) := by
        rw [← Int.natCast_mul, Int.toNat_natCast]
      rw [onTheWay_succ_iff, getElem?_slicesOf, sliceAt, hplace, Int.toNat_natCast]
      exact ⟨fun hway => if_pos hway, fun hway => if_neg hway⟩

theorem batches_of_neg {size : Int} (h : size < 0) (texts : List τ) : batches size texts = .ok [] := by
  have hzero : (size == 0) = false := beq_eq_false_iff_ne.2 (Int.ne_of_lt h)
  simp only [batches, hzero, h, if_true, Bool.false_eq_true, if_false]

/-- The model gives a label for each text. -/
def AnswersEach (m : Facade τ) : Prop :=
  ∀ texts labels, m.predict texts = .ok labels → labels.length = texts.length

theorem answersEach_of_separate {m : Facade τ} {row : τ → List Float32} {classes : Nat}
    (hm : m.Separate row classes) : AnswersEach m := by
  intro texts labels hlabels
  have hids := Facade.ids_predict hm texts
  rw [hlabels] at hids
  have hpaired := mapM_eq_ok_iff.1 hids.symm
  simpa only [List.length_map] using hpaired.length_eq.symm

section
variable {m : Facade τ}

/-- A run returns exactly if the model answers on every batch, and then with the ids of all answers. -/
theorem outcome_predictBatches_eq_ok_iff {slices : List (List τ)} {ids : List Int} :
    (predictBatches m slices).outcome = .ok ids ↔ ∃ answers : List (List (Label Float)),
      List.Forall₂ (fun batch labels => m.predict batch = .ok labels) slices answers ∧
        ids = answers.flatten.map Label.id := by
  induction slices generalizing ids with
  | nil =>
    constructor
    · intro h
      exact ⟨[], .nil, (Except.ok.inj h).symm⟩
    · rintro ⟨answers, hanswers, rfl⟩
      rw [List.forall₂_nil_left_iff.1 hanswers]
      rfl
  | cons batch rest ih =>
    cases hp : m.predict batch with
    | error e =>
      rw [predictBatches_cons_of_error hp]
      constructor
      · intro h
        cases h
      · rintro ⟨answers, hanswers, -⟩
        obtain ⟨labels, -, hlabels, -, -⟩ := List.forall₂_cons_left_iff.1 hanswers
        rw [hp] at hlabels
        cases hlabels
    | ok labels =>
      rw [predictBatches_cons_of_ok hp]
      constructor
      · intro h
        obtain ⟨others, hothers, rfl⟩ := map_eq_ok h
        obtain ⟨answers, hanswers, rfl⟩ := ih.1 hothers
        exact ⟨labels :: answers, .cons hp hanswers, by rw [List.flatten_cons, List.map_append]⟩
      · rintro ⟨answers, hanswers, rfl⟩
        obtain ⟨labels', answers', hlabels', hrest, rfl⟩ := List.forall₂_cons_left_iff.1 hanswers
        obtain rfl := Except.ok.inj (hp.symm.trans hlabels')
        have hothers := ih.2 ⟨answers', hrest, rfl⟩
        rw [hothers, List.flatten_cons, List.map_append]
        rfl

theorem length_flatten_of_answers (hm : AnswersEach m) {slices : List (List τ)}
    {answers : List (List (Label Float))}
    (h : List.Forall₂ (fun batch labels => m.predict batch = .ok labels) slices answers) :
    answers.flatten.length = slices.flatten.length := by
  induction h with
  | nil => rfl
  | cons hlabels _ ih =>
    rw [List.flatten_cons, List.flatten_cons, List.length_append, List.length_append, ih, hm _ _ hlabels]

theorem predictIds_of_neg {size : Int} (h : size < 0) (texts : List τ) :
    predictIds m texts size = ⟨[], .ok []⟩ := by
  rw [predictIds, batches_of_neg h]
  rfl

theorem length_of_predictIds (hm : AnswersEach m) {texts : List τ} {size : Int} (hsize : 1 ≤ size)
    {ids : List Int} (h : (predictIds m texts size).outcome = .ok ids) : ids.length = texts.length := by
  obtain ⟨slices, hbatches, hslices⟩ := batches_of_one_le hsize texts
  simp only [predictIds, hbatches] at h
  obtain ⟨answers, hanswers, rfl⟩ := outcome_predictBatches_eq_ok_iff.1 h
  rw [List.length_map, length_flatten_of_answers hm hanswers, hslices.flatten]

end

/-- Which sizes of batches leave texts without an id. A size of zero is refused before the model is asked.
Under any other size the model is asked for the batches that begin on the way from zero to the number of
texts, and a run returns exactly if it answers on all of them, with the ids of its answers in order. Where
the model gives a label for each text, these are ids of all texts if the size is positive; a negative size
asks the model nothing and returns no ids, so that every text is left out. -/
theorem all_classified_iff {m : Facade τ} (hm : AnswersEach m) (texts : List τ) (size : Int) :
    (size = 0 →
      predictIds m texts size = ⟨[], .error (.invalidValue "range() arg 3 must not be zero")⟩) ∧
    (size ≠ 0 → ∃ slices : List (List τ),
      (∀ i, (OnTheWay size texts.length i → slices[i]? = some (sliceAt size texts i)) ∧
        (¬ OnTheWay size texts.length i → slices[i]? = none)) ∧
      ∀ ids, (predictIds m texts size).outcome = .ok ids ↔ ∃ answers : List (List (Label Float)),
        List.Forall₂ (fun batch labels => m.predict batch = .ok labels) slices answers ∧
          ids = answers.flatten.map Label.id) ∧
    (size < 0 → predictIds m texts size = ⟨[], .ok []⟩) ∧
    ∀ ids, (predictIds m texts size).outcome = .ok ids →
      (ids.length = texts.length ↔ 0 < size ∨ texts = []) := by
  refine ⟨?_, fun hsize => ?_, fun hneg => predictIds_of_neg hneg texts, fun ids hids => ?_⟩
  · rintro rfl
    rfl
  · obtain ⟨slices, hbatches, hslices⟩ := exists_batches hsize texts
    refine ⟨slices, hslices, fun ids => ?_⟩
    simp only [predictIds, hbatches]
    exact outcome_predictBatches_eq_ok_iff
  · rcases Int.lt_trichotomy size 0 with hneg | rfl | hpos
    · rw [predictIds_of_neg hneg] at hids
      obtain rfl := Except.ok.inj hids
      rw [List.length_nil, eq_comm, List.length_eq_zero_iff]
      exact ⟨.inr, fun h => h.resolve_left (by omega)⟩
    · cases hids
    · exact ⟨fun _ => .inl hpos, fun _ => length_of_predictIds hm hpos hids⟩

/-- The same three texts under sizes of either sign. -/
theorem all_classified_iff_of_singleClass :
    AnswersEach singleClass ∧
    (predictIds singleClass ["a", "b", "c"] (-2)).outcome = .ok [] ∧
    (∀ ids, (predictIds singleClass ["a", "b", "c"] (-2)).outcome = .ok ids → ids.length ≠ 3) ∧
    ∃ ids, (predictIds singleClass ["a", "b", "c"] 2).outcome = .ok ids ∧ ids.length = 3 := by
  have hseparate : singleClass.Separate (fun _ => [1]) 1 := ⟨fun _ _ => rfl, fun _ => rfl⟩
  have hm := answersEach_of_separate hseparate
  obtain ⟨-, -, hneg, hbackward⟩ := all_classified_iff hm ["a", "b", "c"] (-2)
  obtain ⟨-, -, -, hforward⟩ := all_classified_iff hm ["a", "b", "c"] 2
  refine ⟨hm, by rw [hneg (by decide)], fun ids hids hlength => ?_, ?_⟩
  · have hcases := (hbackward ids hids).1 hlength
    exact absurd hcases (by decide)
  · have hlabel : Facade.HasLabel singleClass.labels [1] := ⟨0, rfl, by decide⟩
    have hanswered : ∃ labels, singleClass.predict ["a", "b", "c"] = .ok labels :=
      Facade.exists_predict_eq_ok hseparate fun _ _ => hlabel
    obtain ⟨labels, hlabels⟩ := hanswered
    have hids : (predictIds singleClass ["a", "b", "c"] 2).outcome = .ok (labels.map Label.id) := by
      rw [outcome_predictIds hseparate _ (by decide), hlabels]
      rfl
    exact ⟨_, hids, (hforward _ hids).2 (.inl (by decide))⟩

end SequenceClassification.Evaluation
