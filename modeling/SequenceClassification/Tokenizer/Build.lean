import SequenceClassification.Disk
import SequenceClassification.Json.Reader
import SequenceClassification.Tokenizer.Basic
import SequenceClassification.Tokenizer.BytePair
import SequenceClassification.Tokenizer.UnigramSubwords
import SequenceClassification.Tokenizer.WordPiece

/-!
Building tokenizers from files. Flags that a family has no use for are refused, whatever their value,
before any file is looked at.
-/
namespace SequenceClassification.Tokenizer

inductive BuildFault where
  | uselessFlag (name : String) (value : Bool)
  | noMerges
  | malformed
  | noModelAt (path : String)
  | noPad
  | noTable (kind : String)
deriving Repr, DecidableEq

def BuildFault.failure (family : Family) (path : String) : BuildFault → Failure
  | .uselessFlag name value =>
    .own .tokenizer ("Optional input \x60" ++ name ++ "\x60 set to value " ++ (Json.bool value).display ++
      " but cannot be used by " ++ family.displayName)
  | .noMerges => .own .tokenizer (family.displayName ++ " tokenizer requires a merges resource")
  | .malformed =>
    .own .tokenizer ("Could not build " ++ family.displayName ++ " tokenizer from " ++ path)
  | .noModelAt path => ⟨.foreign "AssertionError", "cannot find spm source " ++ path⟩
  | .noPad => ⟨.foreign "AssertionError", ""⟩
  | .noTable kind => ⟨.missingAttribute, "'" ++ kind ++ "' object has no attribute 'items'"⟩

structure SourceFile where
  path : String
  content : FileContent
deriving Inhabited

def refuse (name : String) : Option Bool → Except BuildFault Unit
  | none => .ok ()
  | some value => .error (.uselessFlag name value)

def uselessFlags (flags : TextFlags) : Family → List (String × Option Bool)
  | .bert | .distilBert | .electra | .albert => [("add_prefix_space", flags.addPrefixSpace)]
  | .roberta | .bart => [("strip_accents", flags.stripAccents)]
  | .xlmRoberta | .t5 | .marian =>
    [("strip_accents", flags.stripAccents), ("add_prefix_space", flags.addPrefixSpace)]

def fileText (f : SourceFile) : Except BuildFault (List Char) := f.content.text.mapError fun _ => .malformed

def fileValue (levels : Nat) (f : SourceFile) : Except BuildFault Json := do
  (Json.read levels (← fileText f)).mapError fun _ => .malformed

def fileModel (f : SourceFile) : Except BuildFault Unigram :=
  match f.content with
  | .pieces pieces =>
    match Unigram.ofPieces? pieces with
    | some m => .ok m
    | none => .error .malformed
  | _ => .error .malformed

/-- A vocabulary as JSON: a table of ids. -/
def vocabularyOf : Json → Except BuildFault (Entries String TokenId)
  | .obj fields =>
    match fields.mapM fun (token, v) => (TokenId.ofJson? v).map fun id => (token, id) with
    | some vocabulary => .ok vocabulary
    | none => .error .malformed
  | v => .error (.noTable v.kindName)

def occursIn (part : List Char) : List Char → Bool
  | [] => part.isEmpty
  | c :: s => part.isPrefixOf (c :: s) || occursIn part s

/-- Whether a value has a text: as a key, as an item, or as a part. -/
def holds (text : String) : Json → Bool
  | .obj fields => Entries.has text fields
  | .arr items => items.any fun v => v.str? == some text
  | .str s => occursIn text.toList s.toList
  | _ => false

def needed (merges : Option SourceFile) : Except BuildFault SourceFile :=
  match merges with
  | some f => .ok f
  | none => .error .noMerges

/-- A vocabulary in which the unknown token is, and the padding token. -/
def completeVocabulary (levels : Nat) (family : Family) (f : SourceFile) :
    Except BuildFault (Entries String TokenId) := do
  let v ← fileValue levels f
  if !holds (unknownName family) v then throw .malformed
  if !holds (padName family) v then throw .noPad
  vocabularyOf v

def subwordsOf (levels : Nat) (family : Family) (vocabulary : SourceFile) (merges : Option SourceFile)
    (flags : TextFlags) : Except BuildFault (Subwords × NamedTokens) := do
  match family with
  | .bert | .distilBert | .electra =>
    let v := WordPiece.vocabulary (← fileText vocabulary)
    let kept := (specialTokens family).map fun t => t.text.toList
    pure (WordPiece.subwords v (unknownName family) flags.lowerCase flags.stripAccents kept, {})
  | .roberta | .bart =>
    let m ← needed merges
    let v ← vocabularyOf (← fileValue levels vocabulary)
    pure (BytePair.subwords v (unknownName family) (BytePair.merges (← fileText m)), {})
  | .albert =>
    let m ← fileModel vocabulary
    let strip := flags.stripAccents.getD flags.lowerCase
    pure (m.foldedSubwords flags.lowerCase !strip, {})
  | .xlmRoberta => pure ((← fileModel vocabulary).shiftedSubwords, {})
  | .t5 =>
    let m ← fileModel vocabulary
    pure (m.extendedSubwords, placeholders m.pieces.length)
  | .marian =>
    let m ← needed merges
    if m.content matches .missing then throw (.noModelAt m.path)
    let v ← completeVocabulary levels family vocabulary
    pure ((← fileModel m).codedSubwords v (unknownName family), {})

/-- Named tokens are sorted by their ids, so these need an order. -/
def checkOrder (t : Tokenizer) : Except BuildFault Unit :=
  if TokenId.haveOrder t.named.byId.keys then .ok () else .error .malformed

def build (levels : Nat) (family : Family) (vocabulary : SourceFile) (merges : Option SourceFile)
    (flags : TextFlags) : Except BuildFault Tokenizer := do
  (uselessFlags flags family).forM fun (name, value) => refuse name value
  let (subwords, placed) ← subwordsOf levels family vocabulary merges flags
  let t := assemble family flags subwords placed
  checkOrder t
  pure t

def fromFiles (levels : Nat) (family : Family) (vocabulary : SourceFile) (merges : Option SourceFile)
    (flags : TextFlags) : Except Failure Tokenizer :=
  (build levels family vocabulary merges flags).mapError fun e => e.failure family vocabulary.path

/-- A flag that is not given is not refused. -/
theorem refuse_none (name : String) : refuse name none = .ok () := rfl

end SequenceClassification.Tokenizer
