import SequenceClassification.Proofs.Lookup
import SequenceClassification.Proofs.Pipeline.Forward

/-!
The stages of building a pipeline. What stands before the labels are checked is fixed by the files, and
from there the check and the loading of weights decide. Main statements: a pipeline that is built went
through every stage, it has as many classes as labels, and its module has the layout of its classifier.
-/
namespace SequenceClassification

theorem Configuration.nodup_numberedLabels (count : Nat) :
    (Entries.keys (Configuration.numberedLabels count)).Nodup := by
  have hkeys : Entries.keys (Configuration.numberedLabels count) =
      (List.range count).map fun i : Nat => (i : Int) := by
    simp [Entries.keys, Configuration.numberedLabels]
  rw [hkeys]
  exact List.nodup_range.map fun _ _ h => Int.ofNat_inj.1 h

theorem Configuration.nodup_labelsOf {given : Entries String Json} {labels : LabelTable}
    (h : Configuration.labelsOf given = .ok labels) : (Entries.keys labels).Nodup := by
  unfold Configuration.labelsOf at h
  split at h
  · obtain ⟨pairs, -, rfl⟩ := map_eq_ok h
    exact Entries.nodup_keys_ofPairs pairs
  · obtain ⟨count, -, rfl⟩ := map_eq_ok h
    exact Configuration.nodup_numberedLabels count

/-- A configuration that is built has a label table of distinct ids. -/
theorem Configuration.nodup_labels_build {k : ConfigKind} {given : Entries String Json}
    {c : Configuration} (h : Configuration.build k given = .ok c) : (Entries.keys c.labels).Nodup := by
  unfold Configuration.build at h
  obtain ⟨_, -, h⟩ := bind_eq_ok h
  obtain ⟨derived, -, h⟩ := bind_eq_ok h
  obtain ⟨_, -, h⟩ := bind_eq_ok h
  obtain ⟨_, -, h⟩ := bind_eq_ok h
  obtain ⟨_, -, h⟩ := bind_eq_ok h
  obtain ⟨_, -, h⟩ := bind_eq_ok h
  obtain ⟨labels, hlabels, h⟩ := bind_eq_ok h
  obtain ⟨_, -, h⟩ := bind_eq_ok h
  cases h
  exact Configuration.nodup_labelsOf hlabels

theorem ModelConfig.nodup_labels_fromFile {levels : ℕ} {family : Family} {path : String}
    {content : FileContent} {config : ModelConfig}
    (h : ModelConfig.fromFile levels family path content = .ok config) :
    (Entries.keys config.labels).Nodup := by
  unfold ModelConfig.fromFile ModelConfig.fromFileBy at h
  obtain ⟨v, -, h⟩ := bind_eq_ok h
  split at h
  · obtain ⟨_, -, h⟩ := bind_eq_ok h
    obtain ⟨c, hc, h⟩ := bind_eq_ok h
    obtain ⟨built, hbuilt, hc⟩ := bind_eq_ok hc
    obtain ⟨heads, -, hc⟩ := bind_eq_ok hc
    cases h
    cases hc
    change (Entries.keys built.labels).Nodup
    exact Configuration.nodup_labels_build hbuilt
  · cases h

namespace Pipeline

/-- What building a pipeline comes to before the labels are checked. -/
structure Reached (levels : Levels) (settings : Settings) (disk : Disk) (hub : Hub) (files : Files) (tokenizer : Tokenizer)
    (config : ModelConfig) (store : Weights.Store) (classifier : Classifier) : Prop where
  located : locate settings disk hub = .ok files
  tokenized : Tokenizer.fromFiles levels.vocabulary settings.family (source disk files.vocabulary)
    (files.merges.map (source disk)) settings.flags = .ok tokenizer
  configured :
    ModelConfig.fromFile levels.config settings.family files.config (disk.find files.config) = .ok config
  designed : classifierOf settings config = .ok (store, classifier)

variable {levels : Levels} {settings : Settings} {disk : Disk} {hub : Hub} {files : Files} {tokenizer : Tokenizer}
  {config : ModelConfig} {store : Weights.Store} {classifier : Classifier}

theorem designed_eq (h : classifierOf settings config = .ok (store, classifier)) :
    store.attached = some (.zero classifier.architecture.layout) ∧
      classifier.architecture = .ofConfiguration settings.family config.configuration := by
  unfold classifierOf Classifier.construct Classifier.constructFrom at h
  cases hdesign : Classifier.design Classifier.zeroed settings.family config with
  | error e => simp [hdesign, Except.map] at h
  | ok made =>
    simp only [hdesign, Weights.Store.attach, Except.map, Except.ok.injEq, Prod.mk.injEq] at h
    obtain ⟨rfl, rfl⟩ := h
    unfold Classifier.design at hdesign
    obtain ⟨_, -, hdesign⟩ := bind_eq_ok hdesign
    obtain ⟨values, hvalues, hdesign⟩ := bind_eq_ok hdesign
    obtain ⟨_, -, hvalues⟩ := bind_eq_ok hvalues
    cases hdesign
    cases hvalues
    exact ⟨rfl, rfl⟩

/-- There are as many classes as labels. -/
theorem labelCount_of_designed (h : classifierOf settings config = .ok (store, classifier)) :
    classifier.labelCount = config.labels.length := by
  rw [Classifier.labelCount, (designed_eq h).2, Classifier.Architecture.labels_ofConfiguration]
  rfl

/-- Once the stages before are through, the labels are checked and the weights are loaded. -/
theorem build_of_reached (h : Reached levels settings disk hub files tokenizer config store classifier) :
    build levels settings disk hub = (checkLabels config.labels config.labels.length).bind fun _ =>
      (loaded store disk files.weights).map fun store =>
        ⟨tokenizer, store, classifier, config.labels⟩ := by
  rw [← labelCount_of_designed h.designed]
  simp only [build, h.located, h.tokenized, h.configured, h.designed, bind, Except.bind]
  cases checkLabels config.labels classifier.labelCount with
  | error e => rfl
  | ok _ => cases loaded store disk files.weights <;> rfl

/-- A pipeline that is built went through every stage. -/
theorem reached_of_build {p : Pipeline} (h : build levels settings disk hub = .ok p) :
    ∃ files config store, Reached levels settings disk hub files p.tokenizer config store p.classifier ∧
      p.labels = config.labels ∧ checkLabels config.labels config.labels.length = .ok () ∧
      loaded store disk files.weights = .ok p.store := by
  unfold build at h
  obtain ⟨files, hfiles, h⟩ := bind_eq_ok h
  obtain ⟨tokenizer, htokenizer, h⟩ := bind_eq_ok h
  obtain ⟨config, hconfig, h⟩ := bind_eq_ok h
  obtain ⟨⟨store, classifier⟩, hclassifier, h⟩ := bind_eq_ok h
  obtain ⟨_, hlabels, h⟩ := bind_eq_ok h
  obtain ⟨store', hstore', h⟩ := bind_eq_ok h
  cases h
  rw [labelCount_of_designed hclassifier] at hlabels
  exact ⟨files, config, store, ⟨hfiles, htokenizer, hconfig, hclassifier⟩, rfl, hlabels, hstore'⟩

theorem layout_of_loaded {store' : Weights.Store} {path : String}
    (h : loaded store disk path = .ok store') :
    store'.attached.map Weights.Module.layout = store.attached.map Weights.Module.layout := by
  unfold loaded at h
  obtain ⟨_, -, rfl⟩ := map_eq_ok h
  exact Weights.Store.layout_load path _

/-- The module of a pipeline that is built has the layout of its classifier. -/
theorem fitted_of_build {p : Pipeline} (h : build levels settings disk hub = .ok p) : p.Fitted := by
  obtain ⟨files, config, store, hreached, -, -, hloaded⟩ := reached_of_build h
  intro m hm
  have hlayout := layout_of_loaded hloaded
  rw [hm, (designed_eq hreached.designed).1] at hlayout
  exact Option.some.inj hlayout

theorem labelCount_of_build {p : Pipeline} (h : build levels settings disk hub = .ok p) :
    p.classifier.labelCount = p.labels.length := by
  obtain ⟨files, config, store, hreached, hlabels, -, -⟩ := reached_of_build h
  rw [labelCount_of_designed hreached.designed, hlabels]

end Pipeline

end SequenceClassification
