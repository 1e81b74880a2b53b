import SequenceClassification.Proofs.Pipeline.LabelCoverage
import SequenceClassification.Proofs.Pipeline.Padding

/-!
Texts as a pipeline prepares them for its classifier. Each text is encoded on its own, within the limit of
classification, and the encodings are padded to the longest of them. Main statement: the mask recovers the
encoding of every text, whatever it is prepared together with; and there is a batch exactly if all ids,
that of the padding among them, are token ids.
-/
namespace SequenceClassification

namespace Tokenizer

def encoded (t : Tokenizer) (text : String) : List TokenId :=
  t.encode .longestFirst classificationLimits.maxLength text

theorem encodeForModel_texts (t : Tokenizer) (texts : List String) :
    t.encodeForModel (.arr (texts.map .str)) = .ok (texts.map t.encoded) :=
  t.encodeAll_texts rfl texts

theorem size_frame_le (t : Tokenizer) : t.frame.size ≤ 2 := by
  unfold frame Frame.size openingName?
  cases t.family <;> simp

/-- There is room for content within the limit of classification, so no encoding exceeds it. -/
theorem length_encoded_le (t : Tokenizer) (text : String) : (t.encoded text).length ≤ 128 := by
  have hroom : (t.frame.size : Int) < classificationLimits.maxLength := by
    have hsize := t.size_frame_le
    change (t.frame.size : Int) < 128
    omega
  exact Int.ofNat_le.1 (t.length_encode_le text rfl hroom)

end Tokenizer

open Tokenizer.TokenId

namespace Pipeline

variable {p : Pipeline} {pad : Int} {texts : List String}

/-- Texts make the batch of their encodings, if these and the padding have numbers alone. -/
theorem prepare_texts_iff {b : Batch} :
    p.prepare (.arr (texts.map .str)) = .ok b ↔ ∃ rows pad, p.tokenizer.padId.number? = some pad ∧
      (texts.map p.tokenizer.encoded).map (fun ids => ids.map (·.number?)) = rows.map (List.map some) ∧
        Batch.pad rows pad = .ok b := by
  rw [← suppliedBatch_ids_iff, prepare, p.tokenizer.encodeForModel_texts, ok_bind]
  cases p.tokenizer.padId with
  | missing =>
    refine iff_of_false (fun h => nomatch h) fun h => ?_
    obtain ⟨_, _, hpad, -⟩ := suppliedBatch_eq_ok_iff.1 h
    cases hpad
  | whole n => rfl
  | fraction x => rfl
  | text s => rfl

/-- A batch is returned exactly if the ids of the encodings and that of the padding are token ids. -/
theorem exists_prepare_iff (hne : texts ≠ []) :
    (∃ b, p.prepare (.arr (texts.map .str)) = .ok b) ↔
      (∃ pad, p.tokenizer.padId.number? = some pad ∧ isTokenId pad = true) ∧
      ∀ t ∈ texts, ∀ id ∈ p.tokenizer.encoded t, ∃ n, id.number? = some n ∧ isTokenId n = true := by
  have hrows : (∃ rows : List (List Int),
      (texts.map p.tokenizer.encoded).map (fun ids => ids.map (·.number?)) = rows.map (List.map some) ∧
        ∀ row ∈ rows, ∀ n ∈ row, isTokenId n = true) ↔
      ∀ t ∈ texts, ∀ id ∈ p.tokenizer.encoded t, ∃ n, id.number? = some n ∧ isTokenId n = true := by
    rw [exists_eq_map_iff, List.forall_mem_map, List.forall_mem_map]
    simp only [exists_eq_map_iff, List.forall_mem_map]
  rw [← hrows]
  simp only [prepare_texts_iff, Batch.pad_eq_ok_iff]
  constructor
  · rintro ⟨b, rows, pad, hpad, heq, ⟨-, hpadId, hall⟩, -⟩
    exact ⟨⟨pad, hpad, hpadId⟩, rows, heq, hall⟩
  · rintro ⟨⟨pad, hpad, hpadId⟩, rows, heq, hall⟩
    have hsome : rows ≠ [] := by
      rintro rfl
      exact hne (List.map_eq_nil_iff.1 (List.map_eq_nil_iff.1 heq))
    exact ⟨_, rows, pad, hpad, heq, ⟨hsome, hpadId, hall⟩, rfl⟩

theorem length_of_prepare {b : Batch} (hb : p.prepare (.arr (texts.map .str)) = .ok b) :
    b.ids.length = texts.length ∧ b.mask.length = texts.length := by
  obtain ⟨rows, pad, -, heq, hb⟩ := prepare_texts_iff.1 hb
  have hpads := Batch.pads_of_pad hb
  have hcount : rows.length = texts.length := by
    simpa only [List.length_map] using (congrArg List.length heq).symm
  exact ⟨hpads.length_ids.trans hcount, hpads.length_mask.trans hcount⟩

/-- A batch is as wide as the longest encoding of its texts. -/
theorem width_of_prepare {b : Batch} (hb : p.prepare (.arr (texts.map .str)) = .ok b) :
    (∀ t ∈ texts, (p.tokenizer.encoded t).length ≤ b.width) ∧
      ∃ t ∈ texts, (p.tokenizer.encoded t).length = b.width := by
  obtain ⟨rows, pad, -, heq, hb⟩ := prepare_texts_iff.1 hb
  have hpads := Batch.pads_of_pad hb
  have hlengths : rows.map List.length = texts.map fun t => (p.tokenizer.encoded t).length := by
    have hmapped := congrArg (List.map List.length) heq.symm
    simpa only [List.map_map, Function.comp_def, List.length_map] using hmapped
  constructor
  · intro t ht
    have hmem := List.mem_map_of_mem (f := fun t => (p.tokenizer.encoded t).length) ht
    rw [← hlengths] at hmem
    obtain ⟨row, hrow, hlength⟩ := List.mem_map.1 hmem
    rw [← hlength]
    exact hpads.length_le row hrow
  · obtain ⟨row, hrow, hwidth⟩ := hpads.widest
    have hmem := List.mem_map_of_mem (f := List.length) hrow
    rw [hlengths, hwidth] at hmem
    exact List.mem_map.1 hmem

/-- The row of a text in a batch: the numbers of its encoding, filled up, and recovered by the mask. An
encoding of whole numbers is recovered as it is. -/
structure HoldsText (p : Pipeline) (pad : Int) (b : Batch) (i : Nat) (text : String)
    (row mask : List Int) : Prop where
  ids_row : b.ids[i]? = some row
  mask_row : b.mask[i]? = some mask
  encoded : (p.tokenizer.encoded text).map (·.number?) = (Batch.unmask row mask).map some
  encoded_whole : (∀ id ∈ p.tokenizer.encoded text, ∃ n, id = .whole n) →
    p.tokenizer.encoded text = (Batch.unmask row mask).map .whole
  padded : Batch.PadsRow b.width pad (Batch.unmask row mask) row mask

theorem exists_holdsText (hpad : p.tokenizer.padId.number? = some pad) {b : Batch}
    (hb : p.prepare (.arr (texts.map .str)) = .ok b) {i : Nat} {t : String} (ht : texts[i]? = some t) :
    ∃ row mask, HoldsText p pad b i t row mask := by
  obtain ⟨rows, pad', hpad', heq, hb⟩ := prepare_texts_iff.1 hb
  obtain rfl : pad = pad' := Option.some.inj (hpad.symm.trans hpad')
  have hs := congrArg (fun encoded => encoded[i]?) heq
  simp only [List.getElem?_map, ht, Option.map_some] at hs
  obtain ⟨s, hs, hencoded⟩ := Option.map_eq_some_iff.1 hs.symm
  obtain ⟨row, mask, hrow, hmask, hpads, hunmask⟩ := (Batch.pads_of_pad hb).rows i s hs
  subst hunmask
  exact ⟨row, mask, hrow, hmask, hencoded.symm, fun hwhole => eq_map_whole hencoded.symm hwhole, hpads⟩

/-- The mask recovers the same ids of a text from any two rows that hold it. -/
theorem HoldsText.unmask_eq {pad' : Int} {b b' : Batch} {i j : Nat} {t : String}
    {row mask row' mask' : List Int} (h : HoldsText p pad b i t row mask)
    (h' : HoldsText p pad' b' j t row' mask') : Batch.unmask row mask = Batch.unmask row' mask' :=
  map_some_injective (h.encoded.symm.trans h'.encoded)

/-- Preparing texts. Every text has an encoding of its own, within the limit. A batch is returned exactly
if all ids, without their fractions, are token ids; it then has a row for each text and is as wide as the
longest encoding. Each row begins with the encoding of its text and is filled up with the padding id, and the
mask tells one from the other; so it recovers the same ids of a text from every batch in which the text is
prepared. -/
theorem preparation_lossless (hne : texts ≠ []) :
    (∀ t ∈ texts, p.tokenizer.encodeForModel (.arr [.str t]) = .ok [p.tokenizer.encoded t] ∧
      (p.tokenizer.encoded t).length ≤ 128) ∧
    ((∃ b, p.prepare (.arr (texts.map .str)) = .ok b) ↔
      (∃ pad, p.tokenizer.padId.number? = some pad ∧ isTokenId pad = true) ∧
      ∀ t ∈ texts, ∀ id ∈ p.tokenizer.encoded t, ∃ n, id.number? = some n ∧ isTokenId n = true) ∧
    ∀ b, p.prepare (.arr (texts.map .str)) = .ok b →
      b.ids.length = texts.length ∧ b.mask.length = texts.length ∧ b.width ≤ 128 ∧
      (∀ t ∈ texts, (p.tokenizer.encoded t).length ≤ b.width) ∧
      (∃ t ∈ texts, (p.tokenizer.encoded t).length = b.width) ∧
      ∃ pad, p.tokenizer.padId.number? = some pad ∧
        (∀ (i : Nat) t, texts[i]? = some t → ∃ row mask, HoldsText p pad b i t row mask) ∧
        ∀ (texts' : List String) b', p.prepare (.arr (texts'.map .str)) = .ok b' →
          ∀ (i j : Nat) t, texts[i]? = some t → texts'[j]? = some t → ∃ row mask row' mask',
            HoldsText p pad b i t row mask ∧ HoldsText p pad b' j t row' mask' ∧
              Batch.unmask row mask = Batch.unmask row' mask' := by
  refine ⟨fun t _ => ⟨p.tokenizer.encodeForModel_texts [t], p.tokenizer.length_encoded_le t⟩,
    exists_prepare_iff hne, fun b hb => ?_⟩
  obtain ⟨hids, hmask⟩ := length_of_prepare hb
  obtain ⟨hle, hwidest⟩ := width_of_prepare hb
  obtain ⟨-, pad, hpad, -⟩ := prepare_texts_iff.1 hb
  refine ⟨hids, hmask, ?_, hle, hwidest, pad, hpad, fun i t ht => exists_holdsText hpad hb ht,
    fun texts' b' hb' i j t ht ht' => ?_⟩
  · obtain ⟨t, -, hwidth⟩ := hwidest
    rw [← hwidth]
    exact p.tokenizer.length_encoded_le t
  · obtain ⟨row, mask, hrow⟩ := exists_holdsText hpad hb ht
    obtain ⟨row', mask', hrow'⟩ := exists_holdsText hpad hb' ht'
    exact ⟨row, mask, row', mask', hrow, hrow', hrow.unmask_eq hrow'⟩

/-- A disk with a vocabulary in which the padding token and a letter have the given ids, and a classifier
without layers. -/
def robertaDisk (padId letterId : String) : Disk :=
  [("c.json", written ("\x7b\"num_hidden_layers\":0,\"hidden_size\":1,\"vocab_size\":2," ++
      "\"max_position_embeddings\":2,\"type_vocab_size\":1\x7d")),
    ("v.json", written ("\x7b\"<s>\":0,\"<pad>\":" ++ padId ++
      ",\"</s>\":2,\"<unk>\":3,\"<mask>\":4,\"a\":" ++ letterId ++ "\x7d")),
    ("m.txt", written "#version: 0.2\nh i\n"),
    ("w.bin", .stored (.table [
      ("roberta.embeddings.word_embeddings.weight", .tensor ⟨[2, 1], [1, 1]⟩),
      ("roberta.embeddings.position_embeddings.weight", .tensor ⟨[2, 1], [1, 1]⟩),
      ("roberta.embeddings.token_type_embeddings.weight", .tensor ⟨[1, 1], [1]⟩),
      ("roberta.embeddings.LayerNorm.weight", .tensor ⟨[1], [1]⟩),
      ("roberta.embeddings.LayerNorm.bias", .tensor ⟨[1], [1]⟩),
      ("classifier.dense.weight", .tensor ⟨[1, 1], [1]⟩), ("classifier.dense.bias", .tensor ⟨[1], [1]⟩),
      ("classifier.out_proj.weight", .tensor ⟨[2, 1], [1, 1]⟩),
      ("classifier.out_proj.bias", .tensor ⟨[2], [1, 1]⟩)]))]
where
  written (text : String) : FileContent := .octets (Text.utf8 text.toList)

def robertaSettings : Settings where
  family := .roberta
  weights := .locally "w.bin"
  config := .locally "c.json"
  vocabulary := .locally "v.json"
  merges := some (.locally "m.txt")

theorem exists_prepare_of_build {levels : Levels} {settings : Settings} {disk : Disk} {hub : Hub}
    {text : String} {pad : Tokenizer.TokenId} {ids : List Tokenizer.TokenId}
    (h : (build levels settings disk hub).toOption.map
      (fun p => (p.tokenizer.padId, p.tokenizer.encoded text)) = some (pad, ids)) (hpad : pad ≠ .missing) :
    ∃ p, build levels settings disk hub = .ok p ∧ p.tokenizer.padId = pad ∧
      p.tokenizer.encodeForModel (.arr [.str text]) = .ok [ids] ∧
      p.prepare (.arr [.str text]) = suppliedBatch [ids.map (·.value)] pad.value := by
  obtain ⟨p, hp, heq⟩ := toOption_map_eq_some h
  obtain ⟨rfl, rfl⟩ := Prod.mk.inj heq
  have hencode := p.tokenizer.encodeForModel_texts [text]
  refine ⟨p, hp, rfl, hencode, ?_⟩
  rw [prepare, show [Json.str text] = [text].map .str from rfl, hencode, ok_bind]
  cases hid : p.tokenizer.padId with
  | missing => exact absurd hid hpad
  | _ => rfl

/-- A vocabulary may give tokens ids that are none. With a padding id that no batch can hold no text is
prepared, not even one that stands alone and is not padded; and an id with a fraction loses it. -/
theorem prepare_of_unusual_ids :
    (∃ p, build roomy robertaSettings (robertaDisk "9223372036854775808" "10") noHub = .ok p ∧
      p.tokenizer.padId = .whole 9223372036854775808 ∧
      p.tokenizer.encodeForModel (.arr [.str "a"]) = .ok [[.whole 0, .whole 10, .whole 2]] ∧
      p.prepare (.arr [.str "a"]) = .error BatchFault.padOutOfRange.failure) ∧
    ∃ p, build roomy robertaSettings (robertaDisk "1" "10.5") noHub = .ok p ∧
      p.tokenizer.padId = .whole 1 ∧
      p.tokenizer.encodeForModel (.arr [.str "a"]) = .ok [[.whole 0, .fraction 10.5, .whole 2]] ∧
      p.prepare (.arr [.str "a"]) = .ok ⟨3, [[0, 10, 2]], [[1, 1, 1]]⟩ := by
  have houtsized : (build roomy robertaSettings (robertaDisk "9223372036854775808" "10") noHub).toOption.map
      (fun p => (p.tokenizer.padId, p.tokenizer.encoded "a")) =
        some (.whole 9223372036854775808, [.whole 0, .whole 10, .whole 2]) := by decide +kernel
  have hfraction : (build roomy robertaSettings (robertaDisk "1" "10.5") noHub).toOption.map
      (fun p => (p.tokenizer.padId, p.tokenizer.encoded "a")) =
        some (.whole 1, [.whole 0, .fraction 10.5, .whole 2]) := by decide +kernel
  constructor
  · obtain ⟨p, hp, hpad, hencode, hprepare⟩ := exists_prepare_of_build houtsized (by decide)
    exact ⟨p, hp, hpad, hencode, hprepare.trans rfl⟩
  · obtain ⟨p, hp, hpad, hencode, hprepare⟩ := exists_prepare_of_build hfraction (by decide)
    exact ⟨p, hp, hpad, hencode, hprepare.trans (by decide +kernel)⟩

/-- A text that is encoded as the padding token, beside a longer one. -/
theorem preparation_lossless_of_robertaDisk :
    ∃ p, build roomy robertaSettings (robertaDisk "1" "10") noHub = .ok p ∧ p.tokenizer.padId = .whole 1 ∧
      ["<pad>", "aa"] ≠ [] ∧
      ∃ b row mask, p.prepare (.arr [.str "<pad>", .str "aa"]) = .ok b ∧ b.width = 4 ∧
        b.ids[0]? = some row ∧ b.mask[0]? = some mask ∧ Batch.unmask row mask = [0, 1, 2] := by
  have hbuild : (build roomy robertaSettings (robertaDisk "1" "10") noHub).toOption.map
      (fun p => (p.tokenizer.padId, p.tokenizer.encoded "<pad>", p.tokenizer.encoded "aa")) =
        some (.whole 1, [.whole 0, .whole 1, .whole 2],
          [.whole 0, .whole 10, .whole 10, .whole 2]) := by decide +kernel
  obtain ⟨p, hp, heq⟩ := toOption_map_eq_some hbuild
  obtain ⟨hpad, heq⟩ := Prod.mk.inj heq
  obtain ⟨hfirst, hsecond⟩ := Prod.mk.inj heq
  have hne : ["<pad>", "aa"] ≠ [] := List.cons_ne_nil _ _
  obtain ⟨-, hreturns, hbatch⟩ := preparation_lossless hne
  have hids : ∀ t ∈ ["<pad>", "aa"], ∀ id ∈ p.tokenizer.encoded t,
      ∃ n, id.number? = some n ∧ isTokenId n = true := by
    simp [hfirst, hsecond, number?, isTokenId]
  obtain ⟨b, hb⟩ := hreturns.2 ⟨⟨1, by rw [hpad]; rfl, rfl⟩, hids⟩
  obtain ⟨-, -, -, hle, ⟨t, ht, hwidth⟩, pad, -, hrows, -⟩ := hbatch b hb
  obtain ⟨row, mask, hrow⟩ := hrows 0 "<pad>" rfl
  refine ⟨p, hp, hpad, hne, b, row, mask, hb, ?_, hrow.ids_row, hrow.mask_row, ?_⟩
  · have hlong := hle "aa" (by simp)
    rw [hsecond] at hlong
    simp only [List.mem_cons, List.not_mem_nil, or_false] at ht
    rcases ht with rfl | rfl
    · rw [hfirst] at hwidth
      simp only [List.length_cons, List.length_nil] at hlong hwidth
      omega
    · rw [← hwidth, hsecond]
      rfl
  · have hencoded := hrow.encoded
    rw [hfirst] at hencoded
    exact (map_some_injective (show List.map some ([0, 1, 2] : List Int) = _ from hencoded)).symm

end Pipeline

end SequenceClassification
