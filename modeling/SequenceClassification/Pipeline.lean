import SequenceClassification.Batch
import SequenceClassification.Classifier.Basic
import SequenceClassification.Classifier.Network
import SequenceClassification.Settings
import SequenceClassification.Tokenizer.Build
import SequenceClassification.Tokenizer.Encoding

/-!
Pipelines: a tokenizer, a classifier with loaded weights, and the labels of its classes. A pipeline is
built in stages, of which the first that fails decides; what was classified is then read off as labels.
-/
namespace SequenceClassification

structure Pipeline where
  tokenizer : Tokenizer
  store : Weights.Store
  classifier : Classifier
  labels : LabelTable

namespace Pipeline

structure Files where
  config : String
  vocabulary : String
  weights : String
  merges : Option String
deriving Repr, DecidableEq, Inhabited

def locate (settings : Settings) (disk : Disk) (hub : Hub) : Except Failure Files := do
  let config ← settings.config.locate disk hub
  let vocabulary ← settings.vocabulary.locate disk hub
  let weights ← settings.weights.locate disk hub
  let merges ← settings.merges.mapM fun r => r.locate disk hub
  pure ⟨config, vocabulary, weights, merges⟩

def source (disk : Disk) (path : String) : Tokenizer.SourceFile := ⟨path, disk.find path⟩

def checkLabels (labels : LabelTable) (count : Nat) : Except Failure Unit :=
  match labels.uncovered count with
  | [] => .ok ()
  | ids => .error (.own .labelMapping ("Model configuration has no label for class ids " ++
      Text.bracketed (ids.map toString)))

def classifierOf (settings : Settings) (config : ModelConfig) : Except Failure (Weights.Store × Classifier) :=
  let (store, built) := Classifier.construct settings.family { device := settings.device } config
  built.map fun c => (store, c)

def loaded (store : Weights.Store) (disk : Disk) (path : String) : Except Failure Weights.Store :=
  let (store, outcome) := store.load path (disk.find path)
  outcome.map fun _ => store

/-- How deep JSON may be nested in the files of a pipeline. Both numbers depend on the calls in progress, of
which there are more where a tokenizer reads its vocabulary. -/
structure Levels where
  config : Nat
  vocabulary : Nat
deriving Repr, DecidableEq, Inhabited

def build (levels : Levels) (settings : Settings) (disk : Disk) (hub : Hub) : Except Failure Pipeline := do
  let files ← locate settings disk hub
  let tokenizer ← Tokenizer.fromFiles levels.vocabulary settings.family (source disk files.vocabulary)
    (files.merges.map (source disk)) settings.flags
  let config ← ModelConfig.fromFile levels.config settings.family files.config (disk.find files.config)
  let (store, classifier) ← classifierOf settings config
  checkLabels config.labels classifier.labelCount
  let store ← loaded store disk files.weights
  pure ⟨tokenizer, store, classifier, config.labels⟩

def noPad : Failure :=
  .own .missingPadToken "The tokenizer used for sequence classification should contain a PAD id"

def prepare (p : Pipeline) (texts : Json) : Except Failure Batch := do
  let encoded ← p.tokenizer.encodeForModel texts
  match p.tokenizer.padId with
  | .missing => .error noPad
  | pad => suppliedBatch (encoded.map fun ids => ids.map Tokenizer.TokenId.value) pad.value

abbrev Network := Bool → Classifier.Architecture → Weights.Module → Classifier.Handed Classifier.InputValue →
  Except Failure Logits

/-- The network without dropout: it does not depend on the mode. -/
def Network.steady : Network := fun _ => Classifier.logits

def call (p : Pipeline) (network : Network) (inputs : Classifier.Supplied Classifier.InputValue)
    (train : Bool) : Pipeline × Except Failure Logits :=
  let model (mode : Bool) (handed : Classifier.Handed Classifier.InputValue) : Except Failure Logits :=
    p.store.module.bind fun m => network mode p.classifier.architecture m handed
  let (classifier, outcome) := Classifier.call model p.classifier inputs train
  ({ p with classifier := classifier }, outcome)

def batchInputs (b : Batch) : Classifier.Supplied Classifier.InputValue
  | .tokens => some (.numbers b.ids)
  | .mask => some (.numbers b.mask)
  | _ => none

/-- The forward pass over texts: they are prepared, and the classifier is called in evaluation mode. -/
def pass (p : Pipeline) (network : Network) (texts : List Json) : Pipeline × Except Failure Logits :=
  match p.prepare (.arr texts) with
  | .error e => (p, .error e)
  | .ok b => p.call network (batchInputs b) false

def forward (p : Pipeline) (texts : List Json) : Except Failure Logits := (p.pass .steady texts).2

/-- The state that a classification of texts leaves. Without texts there is no forward pass. -/
def afterTexts (p : Pipeline) (network : Network) (texts : List Json) : Pipeline :=
  if texts.isEmpty then p else (p.pass network texts).1

def facadeOver (p : Pipeline) (network : Network) : Facade Json :=
  ⟨p.labels, fun texts => (p.pass network texts).2⟩

def predict (p : Pipeline) (network : Network) (texts : List Json) :
    Pipeline × Except Failure (List (Label Float)) :=
  (p.afterTexts network texts, (p.facadeOver network).predict texts)

def predictMulti (p : Pipeline) (network : Network) (texts : List Json) (threshold : Json) :
    Pipeline × Except Failure (List (List (Label Float))) :=
  (p.afterTexts network texts, (p.facadeOver network).predictMulti texts threshold)

def facade (p : Pipeline) : Facade Json := ⟨p.labels, p.forward⟩

/-- The pipeline as callers see it whose texts are strings. -/
def textFacade (p : Pipeline) : Facade String := ⟨p.labels, fun texts => p.forward (texts.map .str)⟩

def withLabels (p : Pipeline) (labels : LabelTable) : Pipeline := { p with labels := labels }

def withoutPad (p : Pipeline) : Pipeline := { p with tokenizer := p.tokenizer.withoutPad }

/-- Labels are accepted exactly when every class has one. -/
theorem checkLabels_isOk_iff (labels : LabelTable) (count : Nat) :
    (checkLabels labels count).isOk = true ↔ ∀ i, i < count → (i : Int) ∈ Entries.keys labels := by
  rw [← LabelTable.uncovered_eq_nil_iff]
  unfold checkLabels
  cases LabelTable.uncovered labels count <;> simp [Except.isOk, Except.toBool]

/-- The state of a pipeline is left as it is if the texts cannot be prepared. -/
theorem pass_of_prepare_error {network : Network} {p : Pipeline} {texts : List Json} {e : Failure}
    (h : p.prepare (.arr texts) = .error e) : p.pass network texts = (p, .error e) := by
  rw [pass, h]

theorem pass_of_prepare {network : Network} {p : Pipeline} {texts : List Json} {b : Batch}
    (h : p.prepare (.arr texts) = .ok b) :
    p.pass network texts = p.call network (batchInputs b) false := by
  rw [pass, h]

end Pipeline

end SequenceClassification
