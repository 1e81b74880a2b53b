import SequenceClassification.Classifier.Basic
import SequenceClassification.Proofs.Classifier.Output
import SequenceClassification.Proofs.Outcome
import SequenceClassification.Proofs.Weights.History

/-!
Constructing classifiers. A construction checks the family and its configuration, gets the first values and
hands the module to the store; only the last step changes the store, and it is refused before it does. Main
statement: what becomes of the classifier and of the store, for every way to get the first values.
-/
namespace SequenceClassification.Classifier

/-- The family has classifiers, and the configuration is one of the family by its tag and by its kind. -/
structure IsFor (family : Family) (config : ModelConfig) : Prop where
  classified : family.hasClassifier = true
  tagged : config.family = family
  kind : config.configuration.kind.name = (ConfigKind.ofFamily family).name

section
variable (initial : Initializer) (family : Family) (store : Weights.Store) (config : ModelConfig)

/-- Why a construction is refused: each cause stands behind those before it. -/
inductive Refused : Failure → Prop where
  | headless (h : family.hasClassifier = false) :
    Refused (.own .modelTypeMismatch ("Sequence classification not implemented for " ++
      family.displayName ++ "!"))
  | mismatched (h : family.hasClassifier = true) (hother : config.family ≠ family ∨
      config.configuration.kind.name ≠ (ConfigKind.ofFamily family).name) :
    Refused (wrongConfiguration family)
  | unbuildable {e : Failure} (h : IsFor family config) (he : initial family config.configuration = .error e) :
    Refused e
  | occupied {values : Weights.Copies} {m : Weights.Module} (h : IsFor family config)
      (hvalues : initial family config.configuration = .ok values) (hm : store.attached = some m) :
    Refused Weights.Store.alreadyOwns

/-- The store, which was empty, holds the new module under its first values, and the classifier is the one of
the family and the configuration in evaluation mode. -/
structure Constructed (store' : Weights.Store) (c : Classifier) : Prop where
  isFor : IsFor family config
  empty : store.attached = none
  holds : ∃ values, initial family config.configuration = .ok values ∧
    store' = ⟨store.device, some ⟨c.architecture.layout, values⟩⟩
  family_eq : c.family = family
  architecture_eq : c.architecture = Architecture.ofConfiguration family config.configuration
  evaluating : c.training = false
  labelCount_eq : c.labelCount = config.labelCount

end

variable {initial : Initializer} {family : Family} {store : Weights.Store} {config : ModelConfig}

theorem checkConfiguration_of_isFor (h : IsFor family config) : checkConfiguration family config = .ok () := by
  simp [checkConfiguration, h.classified, h.tagged, h.kind]

theorem checkConfiguration_of_headless (h : family.hasClassifier = false) :
    checkConfiguration family config = .error (.own .modelTypeMismatch
      ("Sequence classification not implemented for " ++ family.displayName ++ "!")) := by
  simp [checkConfiguration, h]

theorem checkConfiguration_of_mismatched (h : family.hasClassifier = true) (hother : config.family ≠ family ∨
    config.configuration.kind.name ≠ (ConfigKind.ofFamily family).name) :
    checkConfiguration family config = .error (wrongConfiguration family) := by
  simp [checkConfiguration, h, hother]

theorem design_of_isFor (h : IsFor family config) : design initial family config =
    (initial family config.configuration).map fun values =>
      (⟨family, Architecture.ofConfiguration family config.configuration, true⟩,
        ⟨(Architecture.ofConfiguration family config.configuration).layout, values⟩) := by
  rw [design, checkConfiguration_of_isFor h, ok_bind]
  cases initial family config.configuration <;> rfl

theorem constructFrom_of_check_error {e : Failure} (h : checkConfiguration family config = .error e) :
    constructFrom initial family store config = (store, .error e) := by
  have hdesign : design initial family config = .error e := by
    rw [design, h]
    rfl
  rw [constructFrom, hdesign]

/-- A construction that is refused leaves the store as it was. -/
theorem constructFrom_of_refused {e : Failure} (h : Refused initial family store config e) :
    constructFrom initial family store config = (store, .error e) := by
  cases h with
  | headless h => exact constructFrom_of_check_error (checkConfiguration_of_headless h)
  | mismatched h hother => exact constructFrom_of_check_error (checkConfiguration_of_mismatched h hother)
  | unbuildable h he =>
    rw [constructFrom, design_of_isFor h, he]
    rfl
  | occupied h hvalues hm =>
    rw [constructFrom, design_of_isFor h, hvalues]
    simp only [Except.map, Weights.Store.attach, hm]
    rfl

theorem constructFrom_of_isFor (h : IsFor family config) {values : Weights.Copies}
    (hvalues : initial family config.configuration = .ok values) (hempty : store.attached = none) :
    constructFrom initial family store config =
      (⟨store.device, some ⟨(Architecture.ofConfiguration family config.configuration).layout, values⟩⟩,
        .ok ⟨family, Architecture.ofConfiguration family config.configuration, false⟩) := by
  rw [constructFrom, design_of_isFor h, hvalues]
  simp only [Except.map, Weights.Store.attach, hempty]

theorem constructFrom_of_constructed {store' : Weights.Store} {c : Classifier}
    (h : Constructed initial family store config store' c) :
    constructFrom initial family store config = (store', .ok c) := by
  obtain ⟨hisFor, hempty, ⟨values, hvalues, rfl⟩, hfamily, harchitecture, hmode, -⟩ := h
  have hc : c = ⟨c.family, c.architecture, c.training⟩ := rfl
  rw [hfamily, harchitecture, hmode] at hc
  rw [hc]
  exact constructFrom_of_isFor hisFor hvalues hempty

theorem constructed_of_isFor (h : IsFor family config) {values : Weights.Copies}
    (hvalues : initial family config.configuration = .ok values) (hempty : store.attached = none) :
    ∃ store' c, Constructed initial family store config store' c :=
  ⟨_, ⟨family, Architecture.ofConfiguration family config.configuration, false⟩,
    h, hempty, ⟨values, hvalues, rfl⟩, rfl, rfl, rfl, Architecture.labels_ofConfiguration _ _⟩

/-- Each cause of a refusal is looked for in its turn, and without any of them there is a classifier. -/
theorem constructed_or_refused (initial : Initializer) (family : Family) (store : Weights.Store)
    (config : ModelConfig) : (∃ store' c, Constructed initial family store config store' c) ∨
      ∃ e, Refused initial family store config e := by
  cases hclassified : family.hasClassifier with
  | false => exact .inr ⟨_, .headless hclassified⟩
  | true =>
    by_cases hother : config.family ≠ family ∨
        config.configuration.kind.name ≠ (ConfigKind.ofFamily family).name
    · exact .inr ⟨_, .mismatched hclassified hother⟩
    · rw [not_or, not_not, not_not] at hother
      have h : IsFor family config := ⟨hclassified, hother.1, hother.2⟩
      cases hvalues : initial family config.configuration with
      | error e => exact .inr ⟨e, .unbuildable h hvalues⟩
      | ok values =>
        cases hm : store.attached with
        | some m => exact .inr ⟨_, .occupied h hvalues hm⟩
        | none => exact .inl (constructed_of_isFor h hvalues hm)

/-- The module that a construction makes has an output for each label of the configuration. -/
theorem Constructed.exists_module {store' : Weights.Store} {c : Classifier}
    (h : Constructed initial family store config store' c) :
    ∃ m, store'.attached = some m ∧ m.layout = c.architecture.layout ∧
      (headOf c.architecture m).output.weight.length = config.labelCount := by
  obtain ⟨values, -, hstore⟩ := h.holds
  refine ⟨⟨c.architecture.layout, values⟩, by rw [hstore], rfl, ?_⟩
  rw [length_output_weight rfl, ← h.labelCount_eq]
  rfl

/-- What becomes of a construction, whatever the store holds, whatever family is asked for and whatever the
configuration is, for every way to get first values. It succeeds exactly if the store was empty and then holds
the new module alone, which has the layout of the family's classifier and an output for each label of the
configuration, and the classifier is in evaluation mode. It fails exactly for the first cause to refuse it, and
then the store is the one from before. -/
theorem construction (initial : Initializer) (family : Family) (store : Weights.Store) (config : ModelConfig) :
    (∀ store' c, constructFrom initial family store config = (store', .ok c) ↔
      Constructed initial family store config store' c) ∧
    (∀ store' e, constructFrom initial family store config = (store', .error e) ↔
      store' = store ∧ Refused initial family store config e) ∧
    ∀ store' c, constructFrom initial family store config = (store', .ok c) →
      ∃ m, store'.attached = some m ∧ m.layout = c.architecture.layout ∧
        (headOf c.architecture m).output.weight.length = config.labelCount := by
  have hmade : ∀ store' c, constructFrom initial family store config = (store', .ok c) →
      Constructed initial family store config store' c := by
    intro store' c hc
    rcases constructed_or_refused initial family store config with ⟨store₁, c₁, h⟩ | ⟨e, h⟩
    · rw [constructFrom_of_constructed h] at hc
      cases hc
      exact h
    · rw [constructFrom_of_refused h] at hc
      cases hc
  refine ⟨fun store' c => ⟨hmade store' c, constructFrom_of_constructed⟩, fun store' e => ?_,
    fun store' c hc => (hmade store' c hc).exists_module⟩
  constructor
  · intro he
    rcases constructed_or_refused initial family store config with ⟨store₁, c, h⟩ | ⟨e₁, h⟩
    · rw [constructFrom_of_constructed h] at he
      cases he
    · rw [constructFrom_of_refused h] at he
      cases he
      exact ⟨rfl, h⟩
  · rintro ⟨rfl, h⟩
    exact constructFrom_of_refused h

end SequenceClassification.Classifier
