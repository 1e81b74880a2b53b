import Mathlib.Data.List.Dedup
import SequenceClassification.Proofs.Lookup
import SequenceClassification.Proofs.Outcome
import SequenceClassification.Tokenizer.Build

/-!
The ids of tokens. A special token has its id in the vocabulary; one that the vocabulary lacks gets an id
behind the number of its tokens, in the order of the special tokens. Over a vocabulary of word pieces an id is
the place of the last line of the token. Main statements: over word pieces the padding token has an id, whether
or not the vocabulary has the token; and all tokens of a text have ids, which are less than five behind the
lines.
-/
namespace SequenceClassification.Tokenizer

namespace NamedTokens

variable {vocabulary : Entries String TokenId} {n : NamedTokens} {s : String}

theorem id?_add_of_ne {t : NamedToken} (h : s ≠ t.text) (id : TokenId) : (n.add t id).id? s = n.id? s :=
  Entries.get?_put_of_ne h id n.ids

theorem id?_addAll_of_not_mem {next : Int} {tokens : List NamedToken} (h : s ∉ tokens.map NamedToken.text) :
    (addAll vocabulary next tokens n).id? s = n.id? s := by
  induction tokens generalizing next n with
  | nil => rfl
  | cons t rest ih =>
    rw [List.map_cons, List.mem_cons, not_or] at h
    rw [addAll]
    split
    · rw [ih h.2, id?_add_of_ne h.1]
    · rw [ih h.2, id?_add_of_ne h.1]

/-- How many of the tokens the vocabulary lacks. -/
def lacking (vocabulary : Entries String TokenId) (tokens : List NamedToken) : Nat :=
  tokens.countP fun t => !Entries.has t.text vocabulary

/-- A token that is added has its id in the vocabulary, or one behind those that were lacking before it. -/
theorem id?_addAll {next : Int} {before after : List NamedToken} {t : NamedToken}
    (h : t.text ∉ after.map NamedToken.text) :
    (addAll vocabulary next (before ++ t :: after) n).id? t.text =
      some ((Entries.get? t.text vocabulary).getD (.whole (next + lacking vocabulary before))) := by
  induction before generalizing next n with
  | nil =>
    rw [List.nil_append, addAll]
    cases hfound : Entries.get? t.text vocabulary with
    | some id => simp only [id?_addAll_of_not_mem h, id?_add, Option.getD_some]
    | none => simp [id?_addAll_of_not_mem h, id?_add, lacking]
  | cons u before ih =>
    rw [List.cons_append, addAll]
    -- a token that is lacking takes the next id, so what is counted up to the last one moves over to `next`
    cases hfound : Entries.get? u.text vocabulary with
    | some id =>
      have hlacking : lacking vocabulary (u :: before) = lacking vocabulary before := by
        simp [lacking, Entries.has, hfound]
      rw [hlacking]
      exact ih
    | none =>
      have hlacking : lacking vocabulary (u :: before) = lacking vocabulary before + 1 := by
        simp [lacking, Entries.has, hfound]
      have hnext : next + ((lacking vocabulary before + 1 : Nat) : Int) =
          next + 1 + lacking vocabulary before := by omega
      rw [hlacking, hnext]
      exact ih

/-- Every token that is added has an id: one of the vocabulary, or one of those behind. -/
theorem exists_id?_addAll {next : Int} {tokens : List NamedToken}
    (hn : (tokens.map NamedToken.text).Nodup) (h : s ∈ tokens.map NamedToken.text) :
    ∃ id, (addAll vocabulary next tokens n).id? s = some id ∧
      (Entries.get? s vocabulary = some id ∨ ∃ k : Nat, k < tokens.length ∧ id = .whole (next + k)) := by
  obtain ⟨t, ht, rfl⟩ := List.mem_map.1 h
  obtain ⟨before, after, rfl⟩ := List.append_of_mem ht
  rw [List.map_append, List.map_cons, List.nodup_append, List.nodup_cons] at hn
  refine ⟨_, id?_addAll hn.2.1.1, ?_⟩
  cases hfound : Entries.get? t.text vocabulary with
  | some id => exact .inl rfl
  | none =>
    have hle : lacking vocabulary before ≤ before.length := List.countP_le_length
    refine .inr ⟨lacking vocabulary before, ?_, rfl⟩
    rw [List.length_append, List.length_cons]
    omega

end NamedTokens

theorem nodup_specialTokens (family : Family) : ((specialTokens family).map NamedToken.text).Nodup := by
  cases family <;> decide

theorem exists_id?_assemble {family : Family} (flags : TextFlags) {subwords : Subwords} {placed : NamedTokens}
    {s : String} (h : s ∈ (specialTokens family).map NamedToken.text) :
    ∃ id, (assemble family flags subwords placed).named.id? s = some id ∧
      (Entries.get? s subwords.vocabulary = some id ∨
        ∃ k : Nat, k < (specialTokens family).length ∧ id = .whole (subwords.vocabulary.length + k)) :=
  NamedTokens.exists_id?_addAll (nodup_specialTokens family) h

/-- What is built is the tokenizer of the family over the subwords of its files. -/
theorem exists_assemble_of_fromFiles {levels : ℕ} {family : Family} {source : SourceFile}
    {merges : Option SourceFile} {flags : TextFlags} {t : Tokenizer}
    (h : fromFiles levels family source merges flags = .ok t) :
    ∃ subwords placed, subwordsOf levels family source merges flags = .ok (subwords, placed) ∧
      t = assemble family flags subwords placed := by
  obtain ⟨-, -, hbuilt⟩ := bind_eq_ok (mapError_eq_ok h)
  obtain ⟨⟨subwords, placed⟩, hsubwords, hbuilt⟩ := bind_eq_ok hbuilt
  obtain ⟨-, -, hbuilt⟩ := bind_eq_ok hbuilt
  exact ⟨subwords, placed, hsubwords, (Except.ok.inj hbuilt).symm⟩

namespace WordPiece

/-- The last of the lines that are the token has so many lines before it. -/
def LastLine (lines : List (List Char)) (s : String) (i : Nat) : Prop :=
  ∃ before after, lines = before ++ s.toList :: after ∧ s.toList ∉ after ∧ before.length = i

variable {lines : List (List Char)} {s : String} {i : Nat}

theorem LastLine.lt_length (h : LastLine lines s i) : i < lines.length := by
  obtain ⟨before, after, rfl, -, rfl⟩ := h
  rw [List.length_append, List.length_cons]
  omega

theorem exists_lastLine_iff : (∃ i, LastLine lines s i) ↔ s.toList ∈ lines := by
  constructor
  · rintro ⟨_, before, after, rfl, -, -⟩
    exact List.mem_append_right _ List.mem_cons_self
  · intro h
    induction lines with
    | nil => cases h
    | cons line rest ih =>
      by_cases hrest : s.toList ∈ rest
      · obtain ⟨_, before, after, rfl, hafter, -⟩ := ih hrest
        exact ⟨_, line :: before, after, rfl, hafter, rfl⟩
      · rw [← (List.mem_cons.1 h).resolve_right hrest]
        exact ⟨0, [], rest, rfl, hrest, rfl⟩

theorem lastLine_concat_self : LastLine (lines ++ [s.toList]) s i ↔ i = lines.length := by
  constructor
  · rintro ⟨before, after, hsplit, hafter, rfl⟩
    rcases List.eq_nil_or_concat' after with rfl | ⟨after, line, rfl⟩
    · rw [(List.append_inj' hsplit rfl).1]
    · rw [← List.cons_append, ← List.append_assoc] at hsplit
      obtain ⟨-, hline⟩ := List.append_inj' hsplit rfl
      exact absurd (by simp [List.singleton_inj.1 hline]) hafter
  · rintro rfl
    exact ⟨lines, [], rfl, List.not_mem_nil, rfl⟩

theorem lastLine_concat_of_ne {line : List Char} (h : line ≠ s.toList) :
    LastLine (lines ++ [line]) s i ↔ LastLine lines s i := by
  constructor
  · rintro ⟨before, after, hsplit, hafter, hi⟩
    rcases List.eq_nil_or_concat' after with rfl | ⟨after, last, rfl⟩
    · exact absurd (List.singleton_inj.1 (List.append_inj' hsplit rfl).2) h
    · rw [← List.cons_append, ← List.append_assoc] at hsplit
      rw [List.mem_append, not_or] at hafter
      exact ⟨before, after, (List.append_inj' hsplit rfl).1, hafter.1, hi⟩
  · rintro ⟨before, after, rfl, hafter, hi⟩
    refine ⟨before, after ++ [line], by simp, ?_, hi⟩
    rw [List.mem_append, List.mem_singleton, not_or]
    exact ⟨hafter, Ne.symm h⟩

def numbered (lines : List (List Char)) : List (String × TokenId) :=
  lines.zipIdx.map fun (line, i) => (String.ofList line, .whole i)

theorem numbered_concat (lines : List (List Char)) (line : List Char) :
    numbered (lines ++ [line]) = numbered lines ++ [(String.ofList line, .whole lines.length)] := by
  simp [numbered, List.zipIdx_append]

/-- A token has the place of the last line that it is. -/
theorem get?_numbered {id : TokenId} : Entries.get? s (Entries.ofPairs (numbered lines)) = some id ↔
    ∃ i : Nat, LastLine lines s i ∧ id = .whole i := by
  -- later lines overwrite earlier ones, so the induction takes the lines from the end
  induction lines using List.reverseRecOn with
  | nil =>
    constructor
    · intro h
      cases h
    · rintro ⟨i, hi, -⟩
      exact absurd hi.lt_length (Nat.not_lt_zero i)
  | append_singleton lines line ih =>
    rw [numbered_concat, Entries.ofPairs_concat]
    by_cases hline : line = s.toList
    · rw [hline, String.ofList_toList, Entries.get?_put_self, Option.some.injEq]
      simp only [lastLine_concat_self, exists_eq_left, eq_comm]
    · have hne : s ≠ String.ofList line := fun heq => hline (by rw [heq, String.toList_ofList])
      rw [Entries.get?_put_of_ne hne, ih]
      simp only [lastLine_concat_of_ne hline]

variable {text : List Char}

theorem get?_vocabulary {id : TokenId} : Entries.get? s (vocabulary text) = some id ↔
    ∃ i : Nat, LastLine (WordPiece.lines text) s i ∧ id = .whole i := get?_numbered

theorem has_vocabulary : Entries.has s (vocabulary text) = true ↔ s.toList ∈ WordPiece.lines text := by
  rw [Entries.has_iff_exists, ← exists_lastLine_iff]
  simp only [get?_vocabulary]
  constructor
  · rintro ⟨_, i, hi, -⟩
    exact ⟨i, hi⟩
  · rintro ⟨i, hi⟩
    exact ⟨_, i, hi, rfl⟩

/-- A vocabulary has a token for each of its distinct lines. -/
theorem length_vocabulary (text : List Char) :
    (vocabulary text).length = (WordPiece.lines text).dedup.length := by
  have hnodup : ((vocabulary text).keys.map String.toList).Nodup :=
    (Entries.nodup_keys_ofPairs _).map fun _ _ => String.toList_inj.1
  have hperm : ((vocabulary text).keys.map String.toList).Perm (WordPiece.lines text).dedup := by
    refine (List.perm_ext_iff_of_nodup hnodup (List.nodup_dedup _)).2 fun line => ?_
    rw [List.mem_dedup, List.mem_map]
    constructor
    · rintro ⟨s, hs, rfl⟩
      exact has_vocabulary.1 ((Entries.has_iff s _).2 hs)
    · intro hline
      have hline' : (String.ofList line).toList ∈ WordPiece.lines text := by rwa [String.toList_ofList]
      exact ⟨String.ofList line, (Entries.has_iff _ _).1 (has_vocabulary.2 hline'), String.toList_ofList⟩
  have hlength := hperm.length_eq
  rwa [List.length_map, Entries.keys, List.length_map] at hlength

theorem has_of_longestFront {v : Entries String TokenId} {lead word : List Char} {m n : Nat}
    (h : longestFront v lead word m = some n) : Entries.has (String.ofList (lead ++ word.take n)) v = true := by
  induction m with
  | zero => cases h
  | succ m ih =>
    rw [longestFront] at h
    split at h
    · rename_i hhas
      obtain rfl := Option.some.inj h
      exact hhas
    · exact ih h

/-- What a word is cut into is in the vocabulary. -/
theorem has_of_cutWord {v : Entries String TokenId} {fuel : Nat} {lead word : List Char} {pieces : List String}
    (h : cutWord v fuel lead word = some pieces) : ∀ piece ∈ pieces, Entries.has piece v = true := by
  fun_induction cutWord v fuel lead word generalizing pieces with
  | case1 =>
    obtain rfl := Option.some.inj h
    exact fun piece hpiece => absurd hpiece List.not_mem_nil
  | case2 => cases h
  | case3 => cases h
  | case4 fuel lead word hne n hfront ih =>
    obtain ⟨rest, hrest, rfl⟩ := Option.map_eq_some_iff.1 h
    exact List.forall_mem_cons.2 ⟨has_of_longestFront hfront, ih hrest⟩

/-- The pieces of a word are in the vocabulary, or the word is unknown. -/
theorem has_of_mem_wordPieces {v : Entries String TokenId} {unknown : String} {word : List Char} {piece : String}
    (h : piece ∈ wordPieces v unknown word) : Entries.has piece v = true ∨ piece = unknown := by
  unfold wordPieces at h
  split at h
  · exact .inr (List.mem_singleton.1 h)
  · cases hcut : cutWord v word.length [] word with
    | none =>
      rw [hcut] at h
      exact .inr (List.mem_singleton.1 h)
    | some pieces =>
      rw [hcut] at h
      exact .inl (has_of_cutWord hcut piece h)

end WordPiece

theorem mem_around {f : Frame} {content : List TokenId} {id : TokenId} (h : id ∈ f.around content) :
    id ∈ f.opening ∨ id ∈ content ∨ id = f.closing := by
  unfold Frame.around at h
  split at h
  · rcases List.mem_append.1 h with h | h
    · exact .inl h
    · exact .inr (.inl h)
  · rw [List.mem_append, List.mem_append, List.mem_singleton, or_assoc] at h
    exact h

/-- An id of a text is the id of a special token around it or of one of its tokens. -/
theorem mem_encode {t : Tokenizer} {strategy : TruncationStrategy} {limit : Int} {text : String} {id : TokenId}
    (h : id ∈ t.encode strategy limit text) :
    id ∈ t.frame.opening ∨ id = t.frame.closing ∨ ∃ s, ∃ token ∈ t.tokens s, id = t.idOf token := by
  rcases mem_around h with h | h | h
  · exact .inl h
  · obtain ⟨token, htoken, hid⟩ := List.mem_map.1 ((truncated_isPrefix ..).subset h)
    exact .inr (.inr ⟨_, token, htoken, hid.symm⟩)
  · exact .inr (.inl h)

/-- A token of a text is known by name or a piece. -/
theorem mem_tokens {t : Tokenizer} {s : List Char} {token : String} (h : token ∈ t.tokens s) :
    (t.named.id? token).isSome = true ∨ ∃ part, token ∈ t.subwords.pieces part := by
  obtain ⟨part, -, htoken⟩ := List.mem_flatMap.1 h
  split at htoken
  · rename_i hsome
    rw [List.mem_singleton.1 htoken]
    exact .inl hsome
  · exact .inr ⟨part, htoken⟩

def wordPieceFamilies : List Family := [.bert, .distilBert, .electra]

/-- The tokenizer over the word pieces that are the lines of a text. -/
def ofLines (family : Family) (flags : TextFlags) (text : List Char) : Tokenizer :=
  assemble family flags (WordPiece.subwords (WordPiece.vocabulary text) "[UNK]" flags.lowerCase
    flags.stripAccents ((specialTokens family).map fun t => t.text.toList)) {}

section
variable {family : Family} (hfamily : family ∈ wordPieceFamilies)
include hfamily

theorem wordPiece_cases : family = .bert ∨ family = .distilBert ∨ family = .electra := by
  simpa [wordPieceFamilies] using hfamily

theorem specialTokens_of_wordPiece :
    (specialTokens family).map NamedToken.text = ["[UNK]", "[SEP]", "[PAD]", "[CLS]", "[MASK]"] := by
  rcases wordPiece_cases hfamily with rfl | rfl | rfl <;> rfl

theorem subwordsOf_eq (levels : ℕ) (source : SourceFile) (merges : Option SourceFile) (flags : TextFlags) :
    subwordsOf levels family source merges flags = (fileText source).bind fun text =>
      .ok (WordPiece.subwords (WordPiece.vocabulary text) "[UNK]" flags.lowerCase flags.stripAccents
        ((specialTokens family).map fun t => t.text.toList), {}) := by
  rcases wordPiece_cases hfamily with rfl | rfl | rfl <;> rfl

/-- What is built over word pieces is built over the lines of the file. -/
theorem exists_ofLines {levels : ℕ} {source : SourceFile} {merges : Option SourceFile} {flags : TextFlags}
    {t : Tokenizer} (h : fromFiles levels family source merges flags = .ok t) :
    ∃ text, source.content.text = .ok text ∧ t = ofLines family flags text := by
  obtain ⟨subwords, placed, hsubwords, rfl⟩ := exists_assemble_of_fromFiles h
  rw [subwordsOf_eq hfamily] at hsubwords
  obtain ⟨text, htext, hsubwords⟩ := bind_eq_ok hsubwords
  obtain ⟨rfl, rfl⟩ := Prod.mk.inj (Except.ok.inj hsubwords)
  exact ⟨text, mapError_eq_ok htext, rfl⟩

variable (flags : TextFlags) (text : List Char)

/-- The id is the place of a line, or one of the five behind the lines. -/
def WithinReach (text : List Char) (id : TokenId) : Prop :=
  ∃ n : Nat, id = .whole n ∧ n < (WordPiece.lines text).length + 5

omit hfamily in
theorem withinReach_of_get? {text : List Char} {s : String} {id : TokenId}
    (h : Entries.get? s (WordPiece.vocabulary text) = some id) : WithinReach text id := by
  obtain ⟨i, hi, rfl⟩ := WordPiece.get?_vocabulary.1 h
  exact ⟨i, rfl, Nat.lt_of_lt_of_le hi.lt_length (Nat.le_add_right _ _)⟩

theorem exists_id?_ofLines {s : String} (h : s ∈ ["[UNK]", "[SEP]", "[PAD]", "[CLS]", "[MASK]"]) :
    ∃ id, (ofLines family flags text).named.id? s = some id ∧ WithinReach text id := by
  rw [← specialTokens_of_wordPiece hfamily] at h
  have hcount : (specialTokens family).length = 5 := by
    rw [← List.length_map NamedToken.text, specialTokens_of_wordPiece hfamily]
    rfl
  obtain ⟨id, hid, hplace⟩ := exists_id?_assemble flags h
  refine ⟨id, hid, ?_⟩
  rcases hplace with hline | ⟨k, hk, rfl⟩
  · exact withinReach_of_get? hline
  · have hsize := WordPiece.length_vocabulary text
    have hle := (List.dedup_sublist (WordPiece.lines text)).length_le
    refine ⟨(WordPiece.vocabulary text).length + k, rfl, ?_⟩
    omega

theorem frame_ofLines : (ofLines family flags text).frame =
    { opening := [(ofLines family flags text).namedId "[CLS]"],
      closing := (ofLines family flags text).namedId "[SEP]", closesOnce := false } := by
  rcases wordPiece_cases hfamily with rfl | rfl | rfl <;> rfl

theorem withinReach_of_named {s : String} {id : TokenId}
    (h : (ofLines family flags text).named.id? s = some id) : WithinReach text id := by
  by_cases hs : s ∈ (specialTokens family).map NamedToken.text
  · rw [specialTokens_of_wordPiece hfamily] at hs
    obtain ⟨id', hid, hreach⟩ := exists_id?_ofLines hfamily flags text hs
    rwa [Option.some.inj (h.symm.trans hid)]
  · have hnone : (ofLines family flags text).named.id? s = none := NamedTokens.id?_addAll_of_not_mem hs
    rw [hnone] at h
    cases h

/-- Every token of a text has an id: a piece that the vocabulary lacks is the unknown token, which has one. -/
theorem withinReach_idOf {s : List Char} {token : String} (h : token ∈ (ofLines family flags text).tokens s) :
    WithinReach text ((ofLines family flags text).idOf token) := by
  unfold idOf
  cases hnamed : (ofLines family flags text).named.id? token with
  | some id =>
    exact withinReach_of_named hfamily flags text hnamed
  | none =>
    rcases mem_tokens h with hsome | ⟨part, hpart⟩
    · rw [hnamed] at hsome
      cases hsome
    · obtain ⟨word, -, hpiece⟩ := List.mem_flatMap.1 hpart
      rcases WordPiece.has_of_mem_wordPieces hpiece with hhas | rfl
      · obtain ⟨id, hid⟩ := (Entries.has_iff_exists _ _).1 hhas
        have hplace : (ofLines family flags text).subwords.idOf token = id :=
          Subwords.idOrUnknown_of_get? "[UNK]" hid
        rw [hplace]
        exact withinReach_of_get? hid
      · obtain ⟨id, hid, -⟩ := exists_id?_ofLines hfamily flags text List.mem_cons_self
        rw [hid] at hnamed
        cases hnamed

/-- Every id of a text is within reach of the lines. -/
theorem withinReach_of_mem_encode {strategy : TruncationStrategy} {limit : Int} {s : String} {id : TokenId}
    (h : id ∈ (ofLines family flags text).encode strategy limit s) : WithinReach text id := by
  have hspecial {name : String} (hname : name ∈ ["[UNK]", "[SEP]", "[PAD]", "[CLS]", "[MASK]"]) :
      WithinReach text ((ofLines family flags text).namedId name) := by
    obtain ⟨id, hid, hreach⟩ := exists_id?_ofLines hfamily flags text hname
    rwa [namedId, hid]
  have hframe := frame_ofLines hfamily flags text
  rcases mem_encode h with h | rfl | ⟨s, token, htoken, rfl⟩
  · rw [hframe] at h
    rw [List.mem_singleton.1 h]
    exact hspecial (by simp)
  · rw [hframe]
    exact hspecial (by simp)
  · exact withinReach_idOf hfamily flags text htoken

omit hfamily in
theorem lacking_vocabulary (tokens : List NamedToken) :
    NamedTokens.lacking (WordPiece.vocabulary text) tokens =
      (tokens.map NamedToken.text).countP fun name => decide (name.toList ∉ WordPiece.lines text) := by
  rw [NamedTokens.lacking, List.countP_map]
  refine List.countP_congr fun t _ => ?_
  simp [← WordPiece.has_vocabulary]

/-- The padding token of word pieces has the place of its line, or the next id behind the tokens and the
special tokens that are lacking before it. -/
theorem padId_ofLines : (ofLines family flags text).padId =
    (Entries.get? "[PAD]" (WordPiece.vocabulary text)).getD
      (.whole ((WordPiece.lines text).dedup.length +
        (["[UNK]", "[SEP]"].countP fun name => decide (name.toList ∉ WordPiece.lines text) : Nat))) := by
  let before : List NamedToken := [{ text := "[UNK]" }, { text := "[SEP]" }]
  let pad : NamedToken := { text := "[PAD]" }
  let after : List NamedToken := [{ text := "[CLS]" }, { text := "[MASK]" }]
  have hadded : (ofLines family flags text).padId =
      ((NamedTokens.addAll (WordPiece.vocabulary text) (WordPiece.vocabulary text).length
        (before ++ pad :: after) {}).id? pad.text).getD .missing := by
    rcases wordPiece_cases hfamily with rfl | rfl | rfl <;> rfl
  have hpad : pad.text ∉ after.map NamedToken.text := by decide
  rw [hadded, NamedTokens.id?_addAll hpad, lacking_vocabulary, WordPiece.length_vocabulary]
  rfl

end

end SequenceClassification.Tokenizer
