import SequenceClassification.Proofs.Pipeline.Preparation
import SequenceClassification.Proofs.Tokenizer.TokenIds

/-!
The padding token of pipelines. It has an id whether or not the files have the token, so that no preparation
misses it. Main statement: which id texts are padded with, over every vocabulary of word pieces.
-/
namespace SequenceClassification.Pipeline

open Tokenizer

theorem prepare_ne_noPad {p : Pipeline} {pad : Int} (hpad : p.tokenizer.padId = .whole pad) (texts : Json) :
    p.prepare texts ≠ .error noPad := by
  have hyields : Yields (p.prepare texts) (fun _ => True) (·.isOwn = false) := by
    unfold prepare
    refine (p.tokenizer.encodeAll_yields _ _ _).bind fun ids _ => ?_
    rw [hpad]
    exact suppliedBatch_yields _ _
  intro h
  exact absurd (hyields.of_error h) (by decide)

/-- Ids within reach of the lines are token ids, unless there are more lines than such ids. -/
theorem isTokenId_of_withinReach {text : List Char}
    (hlines : (WordPiece.lines text).length + 5 ≤ 9223372036854775808) {id : TokenId}
    (h : WithinReach text id) : ∃ n, id.number? = some n ∧ isTokenId n = true := by
  obtain ⟨n, rfl, hn⟩ := h
  refine ⟨n, rfl, ?_⟩
  simp only [isTokenId, Bool.and_eq_true, decide_eq_true_eq]
  omega

variable {family : Family} {p : Pipeline} {texts : List String}

theorem exists_prepare_of_lines (hfamily : family ∈ wordPieceFamilies) {flags : TextFlags} {text : List Char}
    (hp : p.tokenizer = ofLines family flags text)
    (hlines : (WordPiece.lines text).length + 5 ≤ 9223372036854775808) (hne : texts ≠ []) :
    ∃ b, p.prepare (.arr (texts.map .str)) = .ok b := by
  have hspecial := padName_mem family
  rw [specialTokens_of_wordPiece hfamily] at hspecial
  obtain ⟨pad, hpad, hreach⟩ := exists_id?_ofLines hfamily flags text hspecial
  have hpadId : p.tokenizer.padId = pad := by
    rw [hp]
    exact congrArg (·.getD .missing) hpad
  refine (exists_prepare_iff hne).2 ⟨?_, fun s _ id hid => ?_⟩
  · rw [hpadId]
    exact isTokenId_of_withinReach hlines hreach
  · rw [hp] at hid
    exact isTokenId_of_withinReach hlines (withinReach_of_mem_encode hfamily flags text hid)

/-- The padding token has the place of its last line, or without one the next id behind the distinct lines and
the special tokens that are lacking before it. -/
theorem exists_padId_ofLines (hfamily : family ∈ wordPieceFamilies) (flags : TextFlags) (text : List Char) :
    ∃ pad : Int, (ofLines family flags text).padId = .whole pad ∧
      ("[PAD]".toList ∈ WordPiece.lines text → ∃ i : Nat,
        WordPiece.LastLine (WordPiece.lines text) "[PAD]" i ∧ pad = i ∧ i < (WordPiece.lines text).length) ∧
      ("[PAD]".toList ∉ WordPiece.lines text →
        pad = ((WordPiece.lines text).dedup.length +
          (["[UNK]", "[SEP]"].countP fun name => decide (name.toList ∉ WordPiece.lines text)) : Nat) ∧
        ((WordPiece.lines text).Nodup → (WordPiece.lines text).length ≤ pad)) := by
  rw [padId_ofLines hfamily flags text]
  by_cases hline : "[PAD]".toList ∈ WordPiece.lines text
  · obtain ⟨i, hi⟩ := WordPiece.exists_lastLine_iff.2 hline
    rw [WordPiece.get?_vocabulary.2 ⟨i, hi, rfl⟩]
    exact ⟨i, rfl, fun _ => ⟨i, hi, rfl, hi.lt_length⟩, fun hnone => absurd hline hnone⟩
  · have hfound : Entries.get? "[PAD]" (WordPiece.vocabulary text) = none :=
      Option.not_isSome_iff_eq_none.1 (mt WordPiece.has_vocabulary.1 hline)
    rw [hfound]
    refine ⟨_, rfl, fun h => absurd h hline, fun _ => ⟨rfl, fun hnodup => ?_⟩⟩
    rw [hnodup.dedup]
    omega

/-- What texts are padded with. Over the lines of a vocabulary file that has the padding token the padding is
the place of its last line. But a file without it is not refused: the token then gets the next id behind the
distinct lines and the special tokens that are lacking before it, which is no line if none is repeated. So a
tokenizer over word pieces always has a padding token and no preparation misses it: up to the size of a token
id texts are prepared, and their rows are filled up with that id. -/
theorem padding_of_lines {levels : ℕ} (hfamily : family ∈ wordPieceFamilies) {source : SourceFile}
    {merges : Option SourceFile} {flags : TextFlags}
    (hbuilt : fromFiles levels family source merges flags = .ok p.tokenizer) (hne : texts ≠ []) :
    ∃ (text : List Char) (pad : Int), source.content.text = .ok text ∧ p.tokenizer.padId = .whole pad ∧
      ("[PAD]".toList ∈ WordPiece.lines text → ∃ i : Nat,
        WordPiece.LastLine (WordPiece.lines text) "[PAD]" i ∧ pad = i ∧ i < (WordPiece.lines text).length) ∧
      ("[PAD]".toList ∉ WordPiece.lines text →
        pad = ((WordPiece.lines text).dedup.length +
          (["[UNK]", "[SEP]"].countP fun name => decide (name.toList ∉ WordPiece.lines text)) : Nat) ∧
        ((WordPiece.lines text).Nodup → (WordPiece.lines text).length ≤ pad)) ∧
      p.prepare (.arr (texts.map .str)) ≠ .error noPad ∧
      ((WordPiece.lines text).length + 5 ≤ 9223372036854775808 →
        ∃ b, p.prepare (.arr (texts.map .str)) = .ok b) ∧
      ∀ b, p.prepare (.arr (texts.map .str)) = .ok b → ∀ (i : Nat) t, texts[i]? = some t →
        ∃ row mask, HoldsText p pad b i t row mask := by
  obtain ⟨text, htext, hp⟩ := exists_ofLines hfamily hbuilt
  obtain ⟨pad, hpad, hline, hnone⟩ := exists_padId_ofLines hfamily flags text
  rw [← hp] at hpad
  have hnumber : p.tokenizer.padId.number? = some pad := by
    rw [hpad]
    rfl
  exact ⟨text, pad, htext, hpad, hline, hnone, prepare_ne_noPad hpad _,
    fun hlines => exists_prepare_of_lines hfamily hp hlines hne,
    fun b hb i t ht => exists_holdsText hnumber hb ht⟩

/-- The vocabulary of the disk is the unknown token alone: behind its one line come the closing token and then
the padding. -/
theorem padding_of_lines_of_smallDisk :
    ∃ p, build roomy smallSettings (smallDisk "\"0\":\"no\",\"1\":\"yes\"") noHub = .ok p ∧
      Family.distilBert ∈ wordPieceFamilies ∧ ["a", "b b"] ≠ [] ∧
      p.prepare (.arr [.str "a", .str "b b"]) ≠ .error noPad ∧
      ∃ b row mask, p.prepare (.arr [.str "a", .str "b b"]) = .ok b ∧ HoldsText p 2 b 0 "a" row mask := by
  set disk := smallDisk "\"0\":\"no\",\"1\":\"yes\"" with hdisk
  have hbuild : (build roomy smallSettings disk noHub).toOption.map (fun p => p.tokenizer.padId) =
      some (.whole 2) := by decide +kernel
  obtain ⟨p, hp, htwo⟩ := toOption_map_eq_some hbuild
  obtain ⟨files, _, _, hreached, -⟩ := reached_of_build hp
  have hfiles : files = ⟨"c.json", "v.txt", "w.bin", none⟩ := Except.ok.inj (hreached.located.symm.trans rfl)
  have htokenized := hreached.tokenized
  rw [hfiles] at htokenized
  have hfamily : Family.distilBert ∈ wordPieceFamilies := by decide
  have hne : ["a", "b b"] ≠ [] := List.cons_ne_nil _ _
  obtain ⟨text, pad, htext, hpad, -, -, hmisses, hprepares, hrows⟩ := padding_of_lines hfamily htokenized hne
  obtain rfl : text = "[UNK]".toList := Except.ok.inj (htext.symm.trans (by decide))
  obtain rfl : pad = 2 := TokenId.whole.inj (hpad.symm.trans htwo)
  obtain ⟨b, hb⟩ := hprepares (by decide)
  obtain ⟨row, mask, hrow⟩ := hrows b hb 0 "a" rfl
  exact ⟨p, hp, hfamily, hne, hmisses, b, row, mask, hb, hrow⟩

end SequenceClassification.Pipeline
