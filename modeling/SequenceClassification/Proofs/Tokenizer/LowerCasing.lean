import SequenceClassification.Proofs.Text.LowerCase
import SequenceClassification.Proofs.Tokenizer.TokenIds
import SequenceClassification.Tokenizer.Encoding

/-!
Tokenizers that lower-case texts as a whole. Nothing else is done with a text before that, so a text is seen
only through its lower-case form, and this form has no other one. Main statement: such a tokenizer encodes
texts as it encodes their lower-case forms, so it does not tell texts with the same forms apart.
-/
namespace SequenceClassification.Tokenizer

variable {t : Tokenizer}

theorem encode_lowerString (h : t.lowersInput = true) (strategy : TruncationStrategy) (limit : Int)
    (text : String) :
    t.encode strategy limit (Text.lowerString text) = t.encode strategy limit text := by
  simp only [encode, content, h, if_true, Text.lower_toList_lowerString]

theorem encodeAll_map_lowerString (h : t.lowersInput = true) (limit : Option Int) (strategy : Json)
    (texts : List String) :
    t.encodeAll (.arr ((texts.map Text.lowerString).map .str)) limit strategy =
      t.encodeAll (.arr (texts.map .str)) limit strategy := by
  rw [encodeAll_texts_eq, encodeAll_texts_eq, List.isEmpty_map]
  simp only [List.map_map, Function.comp_def, encode_lowerString h]

/-- Texts with the same lower-case forms are encoded alike. -/
theorem encodeAll_congr (h : t.lowersInput = true) (limit : Option Int) (strategy : Json)
    {texts texts' : List String} (heq : texts'.map Text.lowerString = texts.map Text.lowerString) :
    t.encodeAll (.arr (texts'.map .str)) limit strategy =
      t.encodeAll (.arr (texts.map .str)) limit strategy := by
  rw [← encodeAll_map_lowerString h, heq, encodeAll_map_lowerString h]

def wholeLoweringFamilies : List Family := [.roberta, .bart, .xlmRoberta, .t5, .marian]

theorem lowersWhole_iff {family : Family} : lowersWhole family = true ↔ family ∈ wholeLoweringFamilies := by
  cases family <;> decide

theorem lowersInput_of_fromFiles {levels : ℕ} {family : Family} (hfamily : family ∈ wholeLoweringFamilies)
    {source : SourceFile} {merges : Option SourceFile} {flags : TextFlags} (hflag : flags.lowerCase = true)
    (h : fromFiles levels family source merges flags = .ok t) : t.lowersInput = true := by
  obtain ⟨subwords, placed, -, rfl⟩ := exists_assemble_of_fromFiles h
  change (flags.lowerCase && lowersWhole family) = true
  rw [hflag, lowersWhole_iff.2 hfamily]
  rfl

/-- Lower-casing is complete. A tokenizer of such a family that is built to lower-case encodes texts as their
lower-case forms, whatever the limit and the strategy are, and so encodes any texts with the same forms alike;
under the strategy of classification it does encode them, for every limit. -/
theorem encodings_by_lower_case {levels : ℕ} {family : Family} (hfamily : family ∈ wholeLoweringFamilies)
    {source : SourceFile} {merges : Option SourceFile} {flags : TextFlags} (hflag : flags.lowerCase = true)
    (hbuilt : fromFiles levels family source merges flags = .ok t) (texts : List String) (limit : Option Int) :
    (∀ strategy : Json, t.encodeAll (.arr ((texts.map Text.lowerString).map .str)) limit strategy =
        t.encodeAll (.arr (texts.map .str)) limit strategy ∧
      ∀ texts' : List String, texts'.map Text.lowerString = texts.map Text.lowerString →
        t.encodeAll (.arr (texts'.map .str)) limit strategy =
          t.encodeAll (.arr (texts.map .str)) limit strategy) ∧
    ∃ rows, t.encodeAll (.arr (texts.map .str)) limit (.str classificationLimits.strategy) = .ok rows ∧
      rows.length = texts.length := by
  have hlowers := lowersInput_of_fromFiles hfamily hflag hbuilt
  refine ⟨fun strategy => ⟨encodeAll_map_lowerString hlowers limit strategy texts,
    fun texts' heq => encodeAll_congr hlowers limit strategy heq⟩, ?_⟩
  exact ⟨_, t.encodeAll_texts rfl texts, List.length_map _⟩

/-- A vocabulary of the octets of a small alpha and of a final sigma. -/
def alphaSigmaFile : SourceFile := ⟨"vocab.json", .octets (Text.utf8
  ("\x7b\"<s>\":0,\"<pad>\":1,\"</s>\":2,\"<unk>\":3,\"<mask>\":4," ++
    "\"\u00ce\":5,\"\u00b1\":6,\"\u00cf\":7,\"\u0124\":8\x7d").toList)⟩

def noMergesFile : SourceFile := ⟨"merges.txt", .octets (Text.utf8 "#version: 0.2\n".toList)⟩

/-- The lower-case form of a sigma depends on its place: here it is at the end of a word, where it is encoded
as a final one. -/
theorem encodings_by_lower_case_of_alphaSigma :
    ∃ t, fromFiles 970 .roberta alphaSigmaFile (some noMergesFile) { lowerCase := true } = .ok t ∧
      Family.roberta ∈ wholeLoweringFamilies ∧
      ["\u03b1\u03c2"].map Text.lowerString = ["\u0391\u03a3"].map Text.lowerString ∧
      t.encodeAll (.arr [.str "\u03b1\u03c2"]) (some 128) (.str "longest_first") =
        t.encodeAll (.arr [.str "\u0391\u03a3"]) (some 128) (.str "longest_first") ∧
      (t.encodeAll (.arr [.str "\u0391\u03a3"]) (some 128) (.str "longest_first")).toOption =
        some [[.whole 0, .whole 5, .whole 6, .whole 7, .whole 8, .whole 2]] := by
  have hbuild : (fromFiles 970 .roberta alphaSigmaFile (some noMergesFile) { lowerCase := true }).toOption.map
      (fun t => (t.encodeAll (.arr [.str "\u0391\u03a3"]) (some 128) (.str "longest_first")).toOption) =
        some (some [[.whole 0, .whole 5, .whole 6, .whole 7, .whole 8, .whole 2]]) := by decide +kernel
  obtain ⟨t, ht, hids⟩ := toOption_map_eq_some hbuild
  have hfamily : Family.roberta ∈ wholeLoweringFamilies := by decide
  have heq : ["\u03b1\u03c2"].map Text.lowerString = ["\u0391\u03a3"].map Text.lowerString := by
    decide +kernel
  obtain ⟨halike, -⟩ := encodings_by_lower_case hfamily rfl ht ["\u0391\u03a3"] (some 128)
  exact ⟨t, ht, hfamily, heq, (halike (.str "longest_first")).2 ["\u03b1\u03c2"] heq, hids⟩

end SequenceClassification.Tokenizer
