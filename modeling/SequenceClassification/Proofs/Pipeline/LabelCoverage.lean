import Mathlib.Data.List.Perm.Subperm
import SequenceClassification.Proofs.Decoding.Naming
import SequenceClassification.Proofs.Pipeline.Stages

/-!
The check of the labels and what it is good for. It only looks for the first ids, as many as there are
labels; but a table has no room for another id beside them. Main statement: building a pipeline passes the
check exactly if the class ids are the first ones, it fails with those of them that are missing otherwise,
and no pipeline that is built ever classifies into a class without a label.
-/
namespace SequenceClassification

namespace LabelTable

variable {table : LabelTable}

/-- The class ids are the first ones, from zero. -/
def Consecutive (table : LabelTable) : Prop :=
  ∀ id : Int, id ∈ Entries.keys table ↔ 0 ≤ id ∧ id < table.length

/-- A table that covers as many classes as it has entries has no other ids. -/
theorem covers_length_iff : table.Covers table.length ↔ table.Consecutive := by
  constructor
  · intro h id
    have hfirst : (List.range table.length).map (fun i : Nat => (i : Int)) ⊆ Entries.keys table := by
      intro id hid
      obtain ⟨i, hi, rfl⟩ := List.mem_map.1 hid
      exact h i (List.mem_range.1 hi)
    have hnodup : ((List.range table.length).map (fun i : Nat => (i : Int))).Nodup :=
      List.nodup_range.map fun _ _ h => Int.ofNat_inj.1 h
    -- the first ids are as many as the keys, so they leave no room for another one
    have hperm : ((List.range table.length).map (fun i : Nat => (i : Int))).Perm (Entries.keys table) :=
      (List.subperm_of_subset hnodup hfirst).perm_of_length_le (by simp [Entries.keys])
    rw [← hperm.mem_iff, List.mem_map]
    constructor
    · rintro ⟨i, hi, rfl⟩
      have hlt := List.mem_range.1 hi
      omega
    · rintro ⟨hnonneg, hlt⟩
      exact ⟨id.toNat, List.mem_range.2 (by omega), by omega⟩
  · intro h i hi
    exact (h i).2 ⟨by omega, by omega⟩

theorem mem_uncovered_iff (count i : Nat) :
    i ∈ table.uncovered count ↔ i < count ∧ (i : Int) ∉ Entries.keys table := by
  rw [uncovered, List.mem_filter, List.mem_range, Bool.not_eq_true', ← Bool.not_eq_true,
    Entries.has_iff]

theorem pairwise_uncovered (table : LabelTable) (count : Nat) :
    (table.uncovered count).Pairwise (· < ·) :=
  List.Pairwise.filter _ List.pairwise_lt_range

end LabelTable

namespace Pipeline

theorem checkLabels_eq_ok_iff (labels : LabelTable) (count : Nat) :
    checkLabels labels count = .ok () ↔ labels.Covers count := by
  rw [LabelTable.Covers, ← LabelTable.uncovered_eq_nil_iff]
  unfold checkLabels
  cases LabelTable.uncovered labels count <;> simp

theorem checkLabels_of_not_covers {labels : LabelTable} {count : Nat} (h : ¬ labels.Covers count) :
    checkLabels labels count = .error (.own .labelMapping
      ("Model configuration has no label for class ids " ++
        Text.bracketed ((labels.uncovered count).map toString))) := by
  rw [← checkLabels_eq_ok_iff] at h
  unfold checkLabels at h ⊢
  cases hids : LabelTable.uncovered labels count with
  | nil => simp [hids] at h
  | cons i ids => rfl

/-- The table of a pipeline that is built covers its classes. -/
theorem covers_of_build {levels : Levels} {settings : Settings} {disk : Disk} {hub : Hub} {p : Pipeline}
    (h : build levels settings disk hub = .ok p) : p.labels.Covers p.labels.length := by
  obtain ⟨files, config, store, -, hlabels, hcheck, -⟩ := reached_of_build h
  rw [hlabels]
  exact (checkLabels_eq_ok_iff _ _).1 hcheck

theorem facade_yields {levels : Levels} {settings : Settings} {disk : Disk} {hub : Hub} {p : Pipeline}
    (h : build levels settings disk hub = .ok p) (texts : List Json) :
    Yields (p.facade.forward texts) (Narrow p.labels.length) General := by
  rw [← labelCount_of_build h]
  exact forward_yields (fitted_of_build h) texts

/-- Building passes the check of the labels exactly if the class ids are the first ones from zero; it
fails with the missing ones in increasing order otherwise. Whatever texts a pipeline that was built
classifies, no class is without a label, and every label is one of the table. -/
theorem label_coverage (levels : Levels) (settings : Settings) (disk : Disk) (hub : Hub) :
    (∀ files tokenizer config store classifier,
      Reached levels settings disk hub files tokenizer config store classifier →
        (Entries.keys config.labels).Nodup ∧
        (checkLabels config.labels classifier.labelCount = .ok () ↔ config.labels.Consecutive) ∧
        (config.labels.Consecutive → build levels settings disk hub =
          (loaded store disk files.weights).map fun store =>
            ⟨tokenizer, store, classifier, config.labels⟩) ∧
        (¬ config.labels.Consecutive → ∃ ids : List Nat, ids.Pairwise (· < ·) ∧
          (∀ i, i ∈ ids ↔ i < config.labels.length ∧ (i : Int) ∉ Entries.keys config.labels) ∧
          build levels settings disk hub = .error (.own .labelMapping
            ("Model configuration has no label for class ids " ++ Text.bracketed (ids.map toString))))) ∧
    ∀ p, build levels settings disk hub = .ok p → ∀ texts threshold,
      (∀ e, p.facade.predict texts = .error e → e.kind ≠ .own .labelMapping) ∧
      (∀ e, p.facade.predictMulti texts threshold = .error e → e.kind ≠ .own .labelMapping) ∧
      (∀ labels, p.facade.predict texts = .ok labels →
        ∀ l ∈ labels, p.labels.Names p.labels.length l) ∧
      ∀ labels, p.facade.predictMulti texts threshold = .ok labels →
        ∀ ls ∈ labels, ∀ l ∈ ls, p.labels.Names p.labels.length l := by
  refine ⟨fun files tokenizer config store classifier h => ?_, fun p h texts threshold => ?_⟩
  · refine ⟨ModelConfig.nodup_labels_fromFile h.configured, ?_, fun hids => ?_, fun hids => ?_⟩
    · rw [labelCount_of_designed h.designed, checkLabels_eq_ok_iff, LabelTable.covers_length_iff]
    · rw [← LabelTable.covers_length_iff, ← checkLabels_eq_ok_iff] at hids
      rw [build_of_reached h, hids]
      rfl
    · rw [← LabelTable.covers_length_iff] at hids
      refine ⟨config.labels.uncovered config.labels.length, LabelTable.pairwise_uncovered _ _,
        LabelTable.mem_uncovered_iff _, ?_⟩
      rw [build_of_reached h, checkLabels_of_not_covers hids]
      rfl
  · have hpredict := Facade.predict_yields (m := p.facade) (covers_of_build h)
      (fun _ he => general_of_isOwn he) texts (facade_yields h texts)
    have hmulti := Facade.predictMulti_yields (m := p.facade) (covers_of_build h)
      (fun _ he => general_of_isOwn he) texts threshold (facade_yields h texts)
    exact ⟨fun e he => (hpredict.of_error he).kind_ne, fun e he => (hmulti.of_error he).kind_ne,
      fun labels hl => hpredict.of_ok hl, fun labels hl => hmulti.of_ok hl⟩

/-- The levels where few calls are in progress. -/
def roomy : Levels := ⟨990, 970⟩

/-- A disk with a configuration that has the given label table, and weights for two classes. -/
def smallDisk (table : String) : Disk :=
  [("c.json", written ("\x7b\"n_layers\":0,\"dim\":1,\"vocab_size\":1,\"max_position_embeddings\":1," ++
      "\"id2label\":\x7b" ++ table ++ "\x7d\x7d")),
    ("v.txt", written "[UNK]"),
    ("w.bin", .stored (.table [
      ("distilbert.embeddings.word_embeddings.weight", .tensor ⟨[1, 1], [1]⟩),
      ("distilbert.embeddings.position_embeddings.weight", .tensor ⟨[1, 1], [1]⟩),
      ("distilbert.embeddings.LayerNorm.weight", .tensor ⟨[1], [1]⟩),
      ("distilbert.embeddings.LayerNorm.bias", .tensor ⟨[1], [1]⟩),
      ("pre_classifier.weight", .tensor ⟨[1, 1], [1]⟩), ("pre_classifier.bias", .tensor ⟨[1], [1]⟩),
      ("classifier.weight", .tensor ⟨[2, 1], [1, 1]⟩), ("classifier.bias", .tensor ⟨[2], [1, 1]⟩)]))]
where
  written (text : String) : FileContent := .octets (text.toList.map Char.toNat)

def smallSettings : Settings where
  family := .distilBert
  weights := .locally "w.bin"
  config := .locally "c.json"
  vocabulary := .locally "v.txt"

def noHub : Hub := fun _ => .refusal "OSError" "offline"

theorem label_coverage_of_smallDisk :
    (∃ ids : List Nat, (∀ i, i ∈ ids ↔ i = 1) ∧
      build roomy smallSettings (smallDisk "\"0\":\"no\",\"2\":\"yes\"") noHub = .error (.own .labelMapping
        ("Model configuration has no label for class ids " ++ Text.bracketed (ids.map toString)))) ∧
    ∃ p, build roomy smallSettings (smallDisk "\"1\":\"yes\",\"00\":\"no\"") noHub = .ok p ∧
      ∀ texts labels, p.facade.predict texts = .ok labels → ∀ l ∈ labels, l.id = 0 ∨ l.id = 1 := by
  constructor
  · set disk := smallDisk "\"0\":\"no\",\"2\":\"yes\"" with hdisk
    have htokens : (Tokenizer.fromFiles 970 .distilBert (source disk "v.txt") none
        smallSettings.flags).toOption.map (fun _ => ()) = some () := by decide +kernel
    have hstages : (ModelConfig.fromFile 990 .distilBert "c.json" (disk.find "c.json") >>= fun config =>
        (classifierOf smallSettings config).map fun built => (config, built)).toOption.map
        (fun stage => Entries.keys stage.1.labels) = some [0, 2] := by decide +kernel
    obtain ⟨tokenizer, htokenizer, -⟩ := toOption_map_eq_some htokens
    obtain ⟨⟨config, store, classifier⟩, hbuilt, hids⟩ := toOption_map_eq_some hstages
    obtain ⟨config, hconfig, hbuilt⟩ := bind_eq_ok hbuilt
    obtain ⟨_, hclassifier, heq⟩ := map_eq_ok hbuilt
    cases heq
    have hlength : config.labels.length = 2 := by
      simpa [Entries.keys] using congrArg List.length hids
    have hmissing : ¬ config.labels.Consecutive := by
      intro h
      have htwo := (h 2).1 (by simp [hids])
      omega
    obtain ⟨ids, -, hmem, hbuild⟩ := ((label_coverage roomy smallSettings disk noHub).1
      ⟨"c.json", "v.txt", "w.bin", none⟩ tokenizer config store classifier
      ⟨rfl, htokenizer, hconfig, hclassifier⟩).2.2.2 hmissing
    refine ⟨ids, fun i => ?_, hbuild⟩
    rw [hmem, hids, hlength]
    simp
    omega
  · have hbuild : (build roomy smallSettings (smallDisk "\"1\":\"yes\",\"00\":\"no\"") noHub).toOption.map
        (fun p => p.labels.length) = some 2 := by decide +kernel
    obtain ⟨p, hp, hlength⟩ := toOption_map_eq_some hbuild
    refine ⟨p, hp, fun texts labels hlabels l hl => ?_⟩
    have hnames := ((label_coverage _ _ _ _).2 p hp texts .null).2.2.1 labels hlabels l hl
    have hlt := hnames.lt
    have hnonneg := hnames.nonneg
    omega

end Pipeline

end SequenceClassification
