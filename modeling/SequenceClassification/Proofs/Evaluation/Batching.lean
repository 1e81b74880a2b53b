import SequenceClassification.Evaluation.Run
import SequenceClassification.Proofs.Decoding.Winners

/-!
Evaluation in batches. A run hands the model consecutive slices of the texts until one of them fails. Main
statement: for a model whose logits for a text depend on that text alone, the size of the slices does not
matter; what is predicted, and what fails, is what classifying all texts at once comes to.
-/
namespace SequenceClassification.Evaluation

variable {τ : Type}

/-- Consecutive slices of a list: none is empty, none holds more than `size` items, and all but the last
hold as many. -/
structure Slices (size : Nat) (texts : List τ) (slices : List (List τ)) : Prop where
  flatten : slices.flatten = texts
  ne_nil : ∀ s ∈ slices, s ≠ []
  length_le : ∀ s ∈ slices, s.length ≤ size
  length_eq : ∀ s ∈ slices.dropLast, s.length = size

theorem length_of_mem_dropLast_slicesOf {k : Nat} {texts batch : List τ}
    (h : batch ∈ (slicesOf k texts).dropLast) : batch.length = k + 1 := by
  fun_induction slicesOf k texts with
  | case1 => cases h
  | case2 x rest ih =>
    by_cases hrest : slicesOf k (rest.drop k) = []
    · rw [hrest] at h
      cases h
    · rw [List.dropLast_cons_of_ne_nil hrest] at h
      rcases List.mem_cons.1 h with rfl | h
      · -- another batch follows, so this one takes all the texts it may
        have hdrop : rest.drop k ≠ [] := by
          intro hnil
          rw [hnil, slicesOf] at hrest
          exact hrest rfl
        have hlong : k < rest.length := by
          by_contra hshort
          exact hdrop (List.drop_eq_nil_of_le (by omega))
        simp only [List.length_cons, List.length_take]
        omega
      · exact ih h

theorem slices_slicesOf (k : Nat) (texts : List τ) : Slices (k + 1) texts (slicesOf k texts) where
  flatten := flatten_slicesOf k texts
  ne_nil _ hs := List.ne_nil_of_length_pos (length_of_mem_slicesOf hs).1
  length_le _ hs := (length_of_mem_slicesOf hs).2
  length_eq _ hs := length_of_mem_dropLast_slicesOf hs

theorem batches_of_one_le {size : Int} (h : 1 ≤ size) (texts : List τ) :
    ∃ slices, batches size texts = .ok slices ∧ Slices size.toNat texts slices := by
  refine ⟨slicesOf (size.toNat - 1) texts, ?_, ?_⟩
  · have hzero : (size == 0) = false := by
      rw [beq_eq_false_iff_ne]
      omega
    have hneg : ¬ size < 0 := by omega
    simp only [batches, hzero, hneg, if_false, Bool.false_eq_true]
  · have hslices := slices_slicesOf (size.toNat - 1) texts
    rwa [show size.toNat - 1 + 1 = size.toNat by omega] at hslices

section
variable {m : Facade τ} {slices : List (List τ)}

theorem predictBatches_cons_of_ok {batch : List τ} {labels : List (Label Float)}
    (h : m.predict batch = .ok labels) (rest : List (List τ)) :
    predictBatches m (batch :: rest) =
      ⟨batch :: (predictBatches m rest).handed,
        (predictBatches m rest).outcome.map (labels.map Label.id ++ ·)⟩ := by
  simp only [predictBatches, h]

theorem predictBatches_cons_of_error {batch : List τ} {e : Failure} (h : m.predict batch = .error e)
    (rest : List (List τ)) : predictBatches m (batch :: rest) = ⟨[batch], .error e⟩ := by
  simp only [predictBatches, h]

/-- A run that returns has handed over every slice. -/
theorem handed_of_outcome_ok {ids : List Int} (h : (predictBatches m slices).outcome = .ok ids) :
    (predictBatches m slices).handed = slices := by
  induction slices generalizing ids with
  | nil => rfl
  | cons batch rest ih =>
    cases hp : m.predict batch with
    | error e =>
      rw [predictBatches_cons_of_error hp] at h
      cases h
    | ok labels =>
      rw [predictBatches_cons_of_ok hp] at h ⊢
      obtain ⟨others, hothers, -⟩ := map_eq_ok h
      rw [ih hothers]

/-- A run that fails has handed over the slices up to the first that the model fails on. -/
theorem handed_of_outcome_error {e : Failure} (h : (predictBatches m slices).outcome = .error e) :
    ∃ done batch rest, slices = done ++ batch :: rest ∧
      (predictBatches m slices).handed = done ++ [batch] ∧
      (∀ b ∈ done, ∃ labels, m.predict b = .ok labels) ∧ m.predict batch = .error e := by
  induction slices with
  | nil => cases h
  | cons batch rest ih =>
    cases hp : m.predict batch with
    | error e' =>
      rw [predictBatches_cons_of_error hp] at h ⊢
      cases h
      exact ⟨[], batch, rest, rfl, rfl, fun b hb => absurd hb (List.not_mem_nil), hp⟩
    | ok labels =>
      rw [predictBatches_cons_of_ok hp] at h ⊢
      have hrest : (predictBatches m rest).outcome = .error e := by
        cases ho : (predictBatches m rest).outcome with
        | error e' => rw [ho] at h; rw [Except.error.inj h]
        | ok ids => rw [ho] at h; cases h
      obtain ⟨done, failing, after, hslices, hhanded, hdone, hfailing⟩ := ih hrest
      refine ⟨batch :: done, failing, after, by rw [hslices]; rfl, by rw [hhanded]; rfl, ?_, hfailing⟩
      intro b hb
      rcases List.mem_cons.1 hb with rfl | hb
      · exact ⟨labels, hp⟩
      · exact hdone b hb

/-- Where the ids of any texts are found text by text, a run finds those of all its slices. -/
theorem outcome_predictBatches {idOf : τ → Except Failure Int}
    (h : ∀ texts, (m.predict texts).map (List.map Label.id) = texts.mapM idOf) :
    (predictBatches m slices).outcome = slices.flatten.mapM idOf := by
  induction slices with
  | nil => rfl
  | cons batch rest ih =>
    -- both sides now stop at the first batch that fails
    rw [List.flatten_cons, mapM_append_eq, ← ih, ← h batch]
    cases hp : m.predict batch with
    | error e => rw [predictBatches_cons_of_error hp]; rfl
    | ok labels => rw [predictBatches_cons_of_ok hp]; rfl

end

/-- The model is handed slices of the texts in their order, and all of them by a run that returns. -/
theorem handed_predictIds (m : Facade τ) (texts : List τ) {size : Int} (hsize : 1 ≤ size) :
    ∃ slices, Slices size.toNat texts slices ∧ (predictIds m texts size).handed <+: slices ∧
      ∀ ids, (predictIds m texts size).outcome = .ok ids → (predictIds m texts size).handed = slices := by
  obtain ⟨slices, hbatches, hslices⟩ := batches_of_one_le hsize texts
  have hrun : predictIds m texts size = predictBatches m slices := by
    simp only [predictIds, hbatches]
  rw [hrun]
  refine ⟨slices, hslices, ?_, fun ids => handed_of_outcome_ok⟩
  cases hout : (predictBatches m slices).outcome with
  | ok ids =>
    have hall := handed_of_outcome_ok hout
    exact ⟨[], by rw [hall, List.append_nil]⟩
  | error e =>
    obtain ⟨done, batch, rest, hsplit, hhanded, -, -⟩ := handed_of_outcome_error hout
    exact ⟨rest, by rw [hhanded, hsplit, List.append_assoc]; rfl⟩

/-- What predicting in batches comes to is what classifying all texts at once comes to. -/
theorem outcome_predictIds {m : Facade τ} {row : τ → List Float32} {classes : Nat}
    (hm : m.Separate row classes) (texts : List τ) {size : Int} (hsize : 1 ≤ size) :
    (predictIds m texts size).outcome = (m.predict texts).map (List.map Label.id) := by
  obtain ⟨slices, hbatches, hslices⟩ := batches_of_one_le hsize texts
  have hrun : predictIds m texts size = predictBatches m slices := by
    simp only [predictIds, hbatches]
  rw [hrun, outcome_predictBatches (Facade.ids_predict hm), hslices.flatten, Facade.ids_predict hm]

/-- The size of the batches does not matter where the logits of a text depend on that text alone. The
model is handed consecutive slices of the texts, all of them if the run returns, else those up to the first
that fails; the outcome is that of classifying all texts at once, of which the first text whose winner has
no label decides the failure. So metrics do not depend on the size of the batches either; and where a gold
label is rejected no text reaches the model. -/
theorem batching_does_not_matter (m : Facade τ) {row : τ → List Float32} {classes : Nat}
    (hm : m.Separate row classes) (texts : List τ) (gold : List Json) {size : Int} (hsize : 1 ≤ size) :
    (∃ slices, Slices size.toNat texts slices ∧
      (∀ ids, (predictIds m texts size).outcome = .ok ids →
        (predictIds m texts size).handed = slices) ∧
      ∀ e, (predictIds m texts size).outcome = .error e →
        ∃ done batch rest, slices = done ++ batch :: rest ∧
          (predictIds m texts size).handed = done ++ [batch] ∧
          (∀ b ∈ done, ∃ labels, m.predict b = .ok labels) ∧ m.predict batch = .error e) ∧
    (predictIds m texts size).outcome = (m.predict texts).map (List.map Label.id) ∧
    ((∀ t ∈ texts, Facade.HasLabel m.labels (row t)) → ∃ labels, m.predict texts = .ok labels) ∧
    (∀ before t after k, texts = before ++ t :: after →
      (∀ u ∈ before, Facade.HasLabel m.labels (row u)) → Facade.winner (row t) = some k →
      (k : Int) ∉ Entries.keys m.labels →
        m.predict texts = .error (noLabelFailure k) ∧
        (predictIds m texts size).outcome = .error (noLabelFailure k)) ∧
    (∀ other : Int, 1 ≤ other →
      (evaluate m texts gold other).outcome = (evaluate m texts gold size).outcome) ∧
    ∀ fault, goldIds m.labels gold = .error fault →
      evaluate m texts gold size = ⟨[], .error fault.failure⟩ := by
  have houtcome := fun {size : Int} (hsize : 1 ≤ size) => outcome_predictIds hm texts hsize
  obtain ⟨slices, hbatches, hslices⟩ := batches_of_one_le hsize texts
  have hrun : predictIds m texts size = predictBatches m slices := by
    simp only [predictIds, hbatches]
  refine ⟨⟨slices, hslices, fun ids h => ?_, fun e h => ?_⟩, houtcome hsize,
    Facade.exists_predict_eq_ok hm, ?_, fun other hother => ?_, fun fault hfault => ?_⟩
  · rw [hrun] at h ⊢
    exact handed_of_outcome_ok h
  · rw [hrun] at h ⊢
    exact handed_of_outcome_error h
  · rintro before t after k rfl hbefore hwinner hk
    have hpredict : m.predict (before ++ t :: after) = .error (noLabelFailure k) :=
      Facade.predict_of_first_unlabelled hm hbefore hwinner hk
    exact ⟨hpredict, by rw [houtcome hsize, hpredict]; rfl⟩
  · unfold evaluate
    cases goldIds m.labels gold with
    | error fault => rfl
    | ok ids => simp only [houtcome hother, houtcome hsize]
  · simp only [evaluate, hfault]

/-- A model with a single class, whose logits are the same for every text. -/
def singleClass : Facade String := ⟨[(0, .str "only")], fun texts => .ok (texts.map fun _ => [1])⟩

theorem batching_does_not_matter_of_singleClass :
    singleClass.Separate (fun _ => [1]) 1 ∧ (1 : Int) ≤ 2 ∧
    (∃ labels, singleClass.predict ["a", "b", "c"] = .ok labels) ∧
    (predictIds singleClass ["a", "b", "c"] 2).outcome =
      (singleClass.predict ["a", "b", "c"]).map (List.map Label.id) ∧
    ∀ gold, (evaluate singleClass ["a", "b", "c"] gold 7).outcome =
      (evaluate singleClass ["a", "b", "c"] gold 2).outcome := by
  have hm : singleClass.Separate (fun _ => [1]) 1 := ⟨fun _ _ => rfl, fun _ => rfl⟩
  have h := fun gold =>
    batching_does_not_matter singleClass hm ["a", "b", "c"] gold (show (1 : Int) ≤ 2 by decide)
  have hlabel : Facade.HasLabel singleClass.labels [1] := ⟨0, rfl, by decide⟩
  exact ⟨hm, by decide, (h []).2.2.1 fun _ _ => hlabel, (h []).2.1,
    fun gold => (h gold).2.2.2.2.1 7 (by decide)⟩

end SequenceClassification.Evaluation
