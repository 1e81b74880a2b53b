import SequenceClassification.Proofs.Outcome
import SequenceClassification.Proofs.Pipeline.LabelCoverage

/-!
The stages of building a pipeline, one after the other. Each looks at some of the settings and files of its
own, beside what earlier stages have come to. Main statement: the first stage that fails decides, and its
failure does not see what only later stages look at.
-/
namespace SequenceClassification

namespace Pipeline

/-- The stages of building a pipeline. -/
inductive Stage where
  | configPath
  | vocabularyPath
  | weightsPath
  | mergesPath
  | tokenizer
  | configuration
  | classifier
  | labels
  | weights
deriving Repr, DecidableEq

namespace Stage

def order : List Stage :=
  [.configPath, .vocabularyPath, .weightsPath, .mergesPath, .tokenizer, .configuration, .classifier,
    .labels, .weights]

def before (s : Stage) : List Stage := order.takeWhile (· ≠ s)

theorem mem_order (s : Stage) : s ∈ order := by cases s <;> decide

theorem nodup_order : order.Nodup := by decide

theorem eq_before {s : Stage} {pre post : List Stage} (h : order = pre ++ s :: post) :
    s.before = pre := by
  have hnodup := nodup_order
  rw [h, List.nodup_append] at hnodup
  have hpre : ∀ t ∈ pre, decide (t ≠ s) = true := fun t ht =>
    decide_eq_true (hnodup.2.2 t ht s (List.mem_cons_self ..))
  rw [before, h, List.takeWhile_append_of_pos hpre, List.takeWhile_cons_of_neg (by simp),
    List.append_nil]

theorem order_eq (s : Stage) : ∃ post, order = s.before ++ s :: post := by
  obtain ⟨pre, post, h⟩ := List.append_of_mem s.mem_order
  exact ⟨post, by rw [eq_before h, h]⟩

/-- What comes before an earlier stage comes before the later one. -/
theorem mem_before_of_mem {s t u : Stage} (ht : t ∈ s.before) (hu : u ∈ t.before ++ [t]) :
    u ∈ s.before := by
  obtain ⟨post, horder⟩ := s.order_eq
  obtain ⟨pre, rest, hbefore⟩ := List.append_of_mem ht
  have horder' : order = pre ++ t :: (rest ++ s :: post) := by simp [horder, hbefore]
  rw [eq_before horder'] at hu
  rw [hbefore]
  rcases List.mem_append.1 hu with hu | hu
  · exact List.mem_append_left _ hu
  · exact List.mem_append_right _ (List.mem_cons.2 (.inl (List.mem_singleton.1 hu)))

theorem weights_not_mem {s : Stage} (h : s ≠ .weights) : .weights ∉ s.before ++ [s] := by
  revert h
  cases s <;> decide

end Stage

/-- All that building a pipeline can look at. -/
structure Setup where
  levels : Levels
  settings : Settings
  disk : Disk
  hub : Hub

namespace Setup

section
variable (a : Setup)

def built : Except Failure Pipeline := build a.levels a.settings a.disk a.hub

def located (r : Resource) : Except Failure String := r.locate a.disk a.hub

def tokenized : Except Failure Tokenizer := do
  let vocabulary ← a.located a.settings.vocabulary
  let merges ← a.settings.merges.mapM a.located
  Tokenizer.fromFiles a.levels.vocabulary a.settings.family (source a.disk vocabulary) (merges.map (source a.disk))
    a.settings.flags

def configured : Except Failure ModelConfig := do
  let path ← a.located a.settings.config
  ModelConfig.fromFile a.levels.config a.settings.family path (a.disk.find path)

def classified : Except Failure (Weights.Store × Classifier) := do
  classifierOf a.settings (← a.configured)

def checked : Except Failure Unit := do
  let config ← a.configured
  let (_, classifier) ← a.classified
  checkLabels config.labels classifier.labelCount

def weighted : Except Failure Weights.Store := do
  let path ← a.located a.settings.weights
  let (store, _) ← a.classified
  loaded store a.disk path

def outcome : Stage → Except Failure Unit
  | .configPath => (a.located a.settings.config).map fun _ => ()
  | .vocabularyPath => (a.located a.settings.vocabulary).map fun _ => ()
  | .weightsPath => (a.located a.settings.weights).map fun _ => ()
  | .mergesPath => (a.settings.merges.mapM a.located).map fun _ => ()
  | .tokenizer => a.tokenized.map fun _ => ()
  | .configuration => a.configured.map fun _ => ()
  | .classifier => a.classified.map fun _ => ()
  | .labels => a.checked
  | .weights => a.weighted.map fun _ => ()

/-- The failure of a stage decides if the stages before it pass. -/
def FailsAt (s : Stage) (e : Failure) : Prop :=
  (∀ t ∈ s.before, a.outcome t = .ok ()) ∧ a.outcome s = .error e

/-- Building passes and fails as its stages do, one after the other. -/
theorem map_built : a.built.map (fun _ => ()) =
    (Stage.order.mapM a.outcome).map fun _ => () := by
  have hlocated : ∀ r, Resource.locate a.disk a.hub r = a.located r := fun _ => rfl
  simp only [built, build, locate, hlocated, Stage.order, mapM_cons_eq, List.mapM_nil, outcome, bind_assoc]
  rcases hconfig : a.located a.settings.config with e | config
  · rfl
  rcases hvocabulary : a.located a.settings.vocabulary with e | vocabulary
  · rfl
  rcases hweights : a.located a.settings.weights with e | weights
  · rfl
  rcases hmerges : a.settings.merges.mapM a.located with e | merges
  · rfl
  have htokenized : a.tokenized = Tokenizer.fromFiles a.levels.vocabulary a.settings.family (source a.disk vocabulary)
      (merges.map (source a.disk)) a.settings.flags := by
    rw [tokenized, hvocabulary, hmerges]
    rfl
  have hconfigured : a.configured =
      ModelConfig.fromFile a.levels.config a.settings.family config (a.disk.find config) := by
    rw [configured, hconfig]
    rfl
  simp only [ok_bind, pure_bind, ← htokenized, ← hconfigured]
  rcases a.tokenized with e | tokenizer
  · rfl
  rcases hmodel : a.configured with e | model
  · rfl
  have hclassified : a.classified = classifierOf a.settings model := by
    rw [classified, hmodel]
    rfl
  simp only [ok_bind, ← hclassified]
  rcases hclassifier : a.classified with e | made
  · rfl
  have hchecked : a.checked = checkLabels model.labels made.2.labelCount := by
    rw [checked, hmodel, hclassifier]
    rfl
  simp only [ok_bind, ← hchecked]
  rcases a.checked with e | _
  · rfl
  have hweighted : a.weighted = loaded made.1 a.disk weights := by
    rw [weighted, hweights, hclassifier]
    rfl
  rw [hweighted]
  cases loaded made.1 a.disk weights <;> rfl

end

section
variable (a b : Setup)

/-- Resolving a reference looks at the same: at the reference itself, and at whether there is a file at its
path or at what the hub answers. -/
def SameReference (r r' : Resource) : Prop :=
  r = r' ∧ match r with
    | .unspecified => True
    | .locally path => (a.disk.find path).isFile = (b.disk.find path).isFile
    | .remotely f => a.hub f = b.hub f

/-- The file that a reference resolves to has the same content. -/
def SameContent (r : Resource) : Prop :=
  ∀ path, a.located r = .ok path → a.disk.find path = b.disk.find path

/-- What a stage looks at of its own, beside what the stages before it have come to, is the same. -/
def SameInputs : Stage → Prop
  | .configPath => SameReference a b a.settings.config b.settings.config
  | .vocabularyPath => SameReference a b a.settings.vocabulary b.settings.vocabulary
  | .weightsPath => SameReference a b a.settings.weights b.settings.weights
  | .mergesPath => Option.Rel (SameReference a b) a.settings.merges b.settings.merges
  | .tokenizer => a.levels.vocabulary = b.levels.vocabulary ∧ a.settings.family = b.settings.family ∧
      a.settings.flags = b.settings.flags ∧ SameContent a b a.settings.vocabulary ∧ ∀ r ∈ a.settings.merges, SameContent a b r
  | .configuration => a.levels.config = b.levels.config ∧ a.settings.family = b.settings.family ∧
      SameContent a b a.settings.config
  | .classifier => a.settings.family = b.settings.family ∧ a.settings.device = b.settings.device
  | .labels => True
  | .weights => SameContent a b a.settings.weights

end

variable {a b : Setup}

theorem SameReference.located_eq {r r' : Resource} (h : SameReference a b r r') :
    a.located r = b.located r' := by
  obtain ⟨rfl, hseen⟩ := h
  unfold located Resource.locate
  cases r with
  | unspecified => rfl
  | locally path =>
    dsimp only at hseen ⊢
    rw [hseen]
  | remotely f =>
    dsimp only at hseen ⊢
    rw [hseen]

theorem mapM_located_eq {o o' : Option Resource} (h : Option.Rel (SameReference a b) o o') :
    o.mapM a.located = o'.mapM b.located := by
  cases h with
  | none => rfl
  | some h =>
    simp only [Option.mapM_some, h.located_eq]

theorem source_eq {r : Resource} {path : String} (h : SameContent a b r) (hr : a.located r = .ok path) :
    source a.disk path = source b.disk path := by
  rw [source, source, h path hr]

/-- A local reference resolves to its own path. -/
theorem sameContent_locally {path : String}
    (h : a.disk.find (Path.normalize path) = b.disk.find (Path.normalize path)) :
    SameContent a b (.locally path) := by
  intro found hfound
  simp only [located, Resource.locate] at hfound
  split at hfound
  · cases hfound
    exact h
  · cases hfound

theorem tokenized_eq (hvocabulary : SameInputs a b .vocabularyPath) (hmerges : SameInputs a b .mergesPath)
    (h : SameInputs a b .tokenizer) : a.tokenized = b.tokenized := by
  obtain ⟨hlevels, hfamily, hflags, hcontent, hcontents⟩ := h
  unfold tokenized
  rw [← hvocabulary.located_eq, ← mapM_located_eq hmerges, ← hlevels, ← hfamily, ← hflags]
  rcases hpath : a.located a.settings.vocabulary with e | path
  · rfl
  rw [ok_bind, ok_bind, source_eq hcontent hpath]
  cases hm : a.settings.merges with
  | none => rfl
  | some r =>
    rw [Option.mapM_some]
    rcases hr : a.located r with e | path'
    · rfl
    · have hsource := source_eq (hcontents r hm) hr
      change Tokenizer.fromFiles _ _ _ (some (source a.disk path')) _ = _
      rw [hsource]
      rfl

theorem configured_eq (hpath : SameInputs a b .configPath) (h : SameInputs a b .configuration) :
    a.configured = b.configured := by
  obtain ⟨hlevels, hfamily, hcontent⟩ := h
  unfold configured
  rw [← hpath.located_eq, ← hlevels, ← hfamily]
  rcases hconfig : a.located a.settings.config with e | path
  · rfl
  · rw [ok_bind, ok_bind, hcontent path hconfig]

section
variable (hpath : SameInputs a b .configPath) (hconfiguration : SameInputs a b .configuration)
  (hclassifier : SameInputs a b .classifier)
include hpath hconfiguration hclassifier

theorem classified_eq : a.classified = b.classified := by
  obtain ⟨hfamily, hdevice⟩ := hclassifier
  unfold classified classifierOf
  rw [configured_eq hpath hconfiguration, hfamily, hdevice]

theorem checked_eq : a.checked = b.checked := by
  unfold checked
  rw [configured_eq hpath hconfiguration, classified_eq hpath hconfiguration hclassifier]

theorem weighted_eq (hweightsPath : SameInputs a b .weightsPath) (h : SameInputs a b .weights) :
    a.weighted = b.weighted := by
  unfold weighted
  rw [← hweightsPath.located_eq, classified_eq hpath hconfiguration hclassifier]
  rcases hweights : a.located a.settings.weights with e | path
  · rfl
  · simp only [ok_bind, loaded, h path hweights]

end

/-- A stage comes to the same if it and the stages before it look at the same. -/
theorem outcome_eq {s : Stage} (h : ∀ t ∈ s.before ++ [s], SameInputs a b t) :
    a.outcome s = b.outcome s := by
  cases s with
  | configPath =>
    rw [outcome, outcome, SameReference.located_eq (h .configPath (by decide))]
  | vocabularyPath =>
    rw [outcome, outcome, SameReference.located_eq (h .vocabularyPath (by decide))]
  | weightsPath =>
    rw [outcome, outcome, SameReference.located_eq (h .weightsPath (by decide))]
  | mergesPath => rw [outcome, outcome, mapM_located_eq (h .mergesPath (by decide))]
  | tokenizer =>
    rw [outcome, outcome, tokenized_eq (h .vocabularyPath (by decide)) (h .mergesPath (by decide))
      (h .tokenizer (by decide))]
  | configuration =>
    rw [outcome, outcome, configured_eq (h .configPath (by decide)) (h .configuration (by decide))]
  | classifier =>
    rw [outcome, outcome, classified_eq (h .configPath (by decide)) (h .configuration (by decide))
      (h .classifier (by decide))]
  | labels =>
    exact checked_eq (h .configPath (by decide)) (h .configuration (by decide))
      (h .classifier (by decide))
  | weights =>
    rw [outcome, outcome, weighted_eq (h .configPath (by decide)) (h .configuration (by decide))
      (h .classifier (by decide)) (h .weightsPath (by decide)) (h .weights (by decide))]

theorem built_eq_error_iff (a : Setup) (e : Failure) :
    a.built = .error e ↔ ∃ s, a.FailsAt s e := by
  rw [eq_error_iff_of_map_eq a.map_built, mapM_eq_error_iff]
  constructor
  · rintro ⟨before, s, after, horder, hbefore, hs⟩
    refine ⟨s, fun t ht => ?_, hs⟩
    obtain ⟨u, hu⟩ := hbefore t (by rwa [← Stage.eq_before horder])
    exact hu
  · rintro ⟨s, hbefore, hs⟩
    obtain ⟨after, horder⟩ := s.order_eq
    exact ⟨s.before, s, after, horder, fun t ht => ⟨(), hbefore t ht⟩, hs⟩

theorem exists_built_eq_ok_iff (a : Setup) :
    (∃ p, a.built = .ok p) ↔ ∀ s, a.outcome s = .ok () := by
  rw [exists_eq_ok_iff_of_map_eq a.map_built, exists_mapM_eq_ok_iff]
  exact ⟨fun h s => (h s s.mem_order).elim fun _ hu => hu, fun h s _ => ⟨(), h s⟩⟩

theorem FailsAt.congr {s : Stage} {e : Failure} (hs : a.FailsAt s e)
    (h : ∀ t ∈ s.before ++ [s], SameInputs a b t) : b.FailsAt s e := by
  refine ⟨fun t ht => ?_, (outcome_eq h).symm.trans hs.2⟩
  have hinputs : ∀ u ∈ t.before ++ [t], SameInputs a b u := fun u hu =>
    h u (List.mem_append_left _ (Stage.mem_before_of_mem ht hu))
  exact (outcome_eq hinputs).symm.trans (hs.1 t ht)

end Setup

/-- A pipeline is built if every stage passes, and otherwise fails with what the first stage that fails
fails with. That failure stays the same as long as this stage and those before it look at the same; in
particular, unless it is the loading of the weights that fails, whatever the weights are. -/
theorem first_failure_decides (a : Setup) :
    ((∃ p, a.built = .ok p) ↔ ∀ s, a.outcome s = .ok ()) ∧
    (∀ e, a.built = .error e ↔ ∃ s, a.FailsAt s e) ∧
    ∀ s e, a.FailsAt s e → ∀ b : Setup,
      ((∀ t ∈ s.before ++ [s], a.SameInputs b t) → b.built = .error e) ∧
      (s ≠ .weights → (∀ t, t ≠ .weights → a.SameInputs b t) → b.built = .error e) := by
  refine ⟨a.exists_built_eq_ok_iff, a.built_eq_error_iff, fun s e hs b => ?_⟩
  have hagree : (∀ t ∈ s.before ++ [s], a.SameInputs b t) → b.built = .error e := fun h =>
    (b.built_eq_error_iff e).2 ⟨s, hs.congr h⟩
  refine ⟨hagree, fun hne h => hagree fun t ht => h t ?_⟩
  rintro rfl
  exact Stage.weights_not_mem hne ht

/-- The setup of a configuration with a class that has no label, beside a weights file of any content. -/
def unlabelledSetup (weights : FileContent) : Setup where
  levels := roomy
  settings := smallSettings
  disk := ("w.bin", weights) :: smallDisk "\"0\":\"no\",\"2\":\"yes\""
  hub := noHub

section
variable {weights content : FileContent}

theorem find_unlabelledSetup {path : String} (h : Path.normalize path ≠ "w.bin") :
    (unlabelledSetup weights).disk.find path = (unlabelledSetup content).disk.find path := by
  simp [unlabelledSetup, Disk.find, Entries.get?, Ne.symm h]

theorem sameInputs_unlabelledSetup (h : weights.isFile = content.isFile) {t : Stage} (ht : t ≠ .weights) :
    (unlabelledSetup weights).SameInputs (unlabelledSetup content) t := by
  have hfound : ∀ path, Path.normalize path ≠ "w.bin" →
      ((unlabelledSetup weights).disk.find path).isFile =
        ((unlabelledSetup content).disk.find path).isFile :=
    fun path hpath => congrArg FileContent.isFile (find_unlabelledSetup hpath)
  have hcontent : ∀ path, Path.normalize (Path.normalize path) ≠ "w.bin" →
      (unlabelledSetup weights).SameContent (unlabelledSetup content) (.locally path) :=
    fun path hpath => Setup.sameContent_locally (find_unlabelledSetup hpath)
  cases t with
  | configPath => exact ⟨rfl, hfound _ (by decide)⟩
  | vocabularyPath => exact ⟨rfl, hfound _ (by decide)⟩
  | weightsPath => exact ⟨rfl, h⟩
  | mergesPath => exact .none
  | tokenizer => exact ⟨rfl, rfl, rfl, hcontent _ (by decide), fun r hr => by cases hr⟩
  | configuration => exact ⟨rfl, rfl, hcontent _ (by decide)⟩
  | classifier => exact ⟨rfl, rfl⟩
  | labels => trivial
  | weights => exact absurd rfl ht

end

def unlabelled : Failure := .own .labelMapping "Model configuration has no label for class ids [1]"

theorem first_failure_decides_of_unlabelledSetup :
    (unlabelledSetup (.octets [])).FailsAt .labels unlabelled ∧
    (unlabelledSetup (.octets [])).built = .error unlabelled ∧
    (unlabelledSetup (.stored (.table []))).built = .error unlabelled := by
  have hfails : (unlabelledSetup (.octets [])).FailsAt .labels unlabelled :=
    ⟨by decide +kernel, by decide +kernel⟩
  obtain ⟨-, hfirst, hdecides⟩ := first_failure_decides (unlabelledSetup (.octets []))
  obtain ⟨-, hlate⟩ := hdecides _ _ hfails (unlabelledSetup (.stored (.table [])))
  have hfiles : (FileContent.octets []).isFile = (FileContent.stored (.table [])).isFile := rfl
  exact ⟨hfails, (hfirst _).2 ⟨_, hfails⟩,
    hlate (by decide) fun t ht => sameInputs_unlabelledSetup hfiles ht⟩

end Pipeline

end SequenceClassification
