import SequenceClassification.Text.Blank
import SequenceClassification.Text.Digit
import SequenceClassification.Text.LowerCase
import SequenceClassification.Text.Normalization
import SequenceClassification.Tokenizer.Special
import SequenceClassification.Tokenizer.Unigram

/-!
Subword vocabularies on unigram models. They differ in what is done to a text before it is cut, in what is
done to pieces afterwards, and in how the numbers of pieces become ids.
-/
namespace SequenceClassification.Tokenizer.Unigram

def encodeStrings (m : Unigram) (s : List Char) : List String := (m.encode s).map String.ofList

def numbered (m : Unigram) : Entries String TokenId :=
  Entries.ofPairs (m.pieces.zipIdx.map fun (p, i) => (p, .whole i))

def joinQuotes (q : Char) : List Char → List Char
  | a :: b :: s => if a = q ∧ b = q then '"' :: joinQuotes q s else a :: joinQuotes q (b :: s)
  | s => s

def folded (lowerCase keepAccents : Bool) (s : List Char) : List Char :=
  let s := [' '].intercalate (Text.words s)
  let s := joinQuotes '\'' (joinQuotes '\x60' s)
  let s := if keepAccents then s
    else (Text.compatibilityDecomposed s).filter fun c => Text.combiningClass c.toNat == 0
  if lowerCase then Text.lower s else s

def withoutMark : List (List Char) → List (List Char)
  | (c :: piece) :: rest =>
    if c == spaceMark then if piece.isEmpty then rest else piece :: rest else (c :: piece) :: rest
  | pieces => pieces

/-- A piece that ends in a digit and a comma is cut again without the comma, which follows alone. -/
def splitComma (m : Unigram) (piece : List Char) : List (List Char) :=
  match piece.reverse with
  | ',' :: d :: _ =>
    if Text.isDigit d then
      let again := m.encode (piece.dropLast.filter (· != spaceMark))
      (if piece.head? == some spaceMark then again else withoutMark again) ++ [[',']]
    else [piece]
  | _ => [piece]

def foldedSubwords (m : Unigram) (lowerCase keepAccents : Bool) : Subwords where
  vocabulary := m.numbered
  pieces s := ((m.encode (folded lowerCase keepAccents s)).flatMap m.splitComma).map String.ofList
  idOf piece := .whole (m.indexOf piece)

/-- Subwords whose ids begin with those of four special tokens; the numbers of pieces move up by one, and
the mask comes after the last of them. -/
def shiftedSubwords (m : Unigram) : Subwords :=
  let size := m.pieces.length
  let reserved : Entries String TokenId :=
    [("<s>", .whole 0), ("<pad>", .whole 1), ("</s>", .whole 2), ("<unk>", .whole 3),
      ("<mask>", .whole (size + 1))]
  let nameAt (i : Nat) : Option String :=
    match reserved.reverse.find? fun e => e.2 == .whole i with
    | some e => some e.1
    | none => if i = 0 then none else m.pieces[i - 1]?
  let vocabulary := Entries.ofPairs ((List.range (size + 2)).filterMap fun i =>
    (nameAt i).map fun name => (name, .whole i))
  let unknownId := (Entries.get? "<unk>" vocabulary).getD (.whole vocabulary.length)
  { vocabulary := vocabulary
    pieces := m.encodeStrings
    idOf := fun piece =>
      match Entries.get? piece reserved with
      | some id => id
      | none =>
        match m.indexOf piece with
        | 0 => unknownId
        | n + 1 => .whole (n + 2) }

def extendedSubwords (m : Unigram) : Subwords where
  vocabulary := Entries.ofPairs (m.numbered ++ (placeholders m.pieces.length).ids)
  pieces := m.encodeStrings
  idOf piece := .whole (m.indexOf piece)

/-- The length of a code in angle brackets at the front of a text that names the language to follow. -/
def languageCode (s : List Char) : Nat :=
  if ['>', '>'].isPrefixOf s then (closing s).getD 0 else 0
where
  /-- The length of the text up to and with its first two closing brackets. -/
  closing : List Char → Option Nat
    | '<' :: '<' :: _ => some 2
    | _ :: s => (closing s).map (· + 1)
    | [] => none

def codedSubwords (m : Unigram) (vocabulary : Entries String TokenId) (unknown : String) : Subwords where
  vocabulary := vocabulary
  pieces s :=
    let n := languageCode s
    (if n = 0 then [] else [String.ofList (s.take n)]) ++ m.encodeStrings (s.drop n)
  idOf := Subwords.idOrUnknown vocabulary unknown

end SequenceClassification.Tokenizer.Unigram
