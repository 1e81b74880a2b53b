import SequenceClassification.Settings
import SequenceClassification.Tokenizer.Special
import SequenceClassification.Tokenizer.Truncation

/-!
Tokenizers. A text is lower-cased if that is asked for, cut at named tokens, and cut into pieces between
them; the ids of all these are truncated and framed by special tokens. Each text is encoded on its own.
-/
namespace SequenceClassification

open Tokenizer

structure Tokenizer where
  family : Family
  flags : TextFlags
  subwords : Subwords
  named : NamedTokens
  padId : TokenId

namespace Tokenizer

/-- Families whose vocabularies have no rule for capitals: a text is lower-cased as a whole for them. -/
def lowersWhole : Family → Bool
  | .roberta | .bart | .xlmRoberta | .t5 | .marian => true
  | _ => false

def lowersInput (t : Tokenizer) : Bool := t.flags.lowerCase && lowersWhole t.family

/-- The tokenizer of a family over a vocabulary. Special tokens that the vocabulary lacks get the ids after
its number of tokens. -/
def assemble (family : Family) (flags : TextFlags) (subwords : Subwords) (placed : NamedTokens) :
    Tokenizer :=
  let named := placed.addAll subwords.vocabulary subwords.vocabulary.length (specialTokens family)
  ⟨family, flags, subwords, named, (named.id? (padName family)).getD .missing⟩

def namedId (t : Tokenizer) (name : String) : TokenId := (t.named.id? name).getD .missing

def frame (t : Tokenizer) : Frame :=
  ⟨(openingName? t.family).toList.map t.namedId, t.namedId (closingName t.family), closesOnce t.family⟩

def lowersAround (t : Tokenizer) : Bool := t.flags.lowerCase && !lowersWhole t.family

def spaced (t : Tokenizer) (s : List Char) : List Char :=
  match t.flags.addPrefixSpace, s with
  | some true, c :: _ => if Text.isBlank c then s else ' ' :: s
  | _, _ => s

def tokens (t : Tokenizer) (s : List Char) : List String :=
  let s := t.spaced s
  let s := if t.lowersAround then
      lowerAround ((specialTokens t.family).map fun n => n.text.toList) s
    else s
  let parts := trimmed t.named none (cut t.named.names s)
  (parts.filter fun part => !part.isEmpty).flatMap fun part =>
    if (t.named.id? (String.ofList part)).isSome then [String.ofList part] else t.subwords.pieces part

def idOf (t : Tokenizer) (token : String) : TokenId :=
  match t.named.id? token with
  | some id => id
  | none => t.subwords.idOf token

def content (t : Tokenizer) (s : List Char) : List TokenId :=
  (t.tokens (if t.lowersInput then Text.lower s else s)).map t.idOf

def encode (t : Tokenizer) (strategy : TruncationStrategy) (limit : Int) (text : String) : List TokenId :=
  t.frame.around (truncated strategy limit t.frame.size (t.content text.toList))

def defaultLimit : Family → Int
  | .marian => 512
  | _ => 0

def withoutPad (t : Tokenizer) : Tokenizer := { t with padId := .missing }

/-- Under a strategy that cuts, no text has more ids than a limit that leaves room for content. -/
theorem length_encode_le (t : Tokenizer) {strategy : TruncationStrategy} {limit : Int} (text : String)
    (hs : strategy.cuts = true) (hl : (t.frame.size : Int) < limit) :
    ((t.encode strategy limit text).length : Int) ≤ limit := by
  have h₁ := t.frame.length_around_le (truncated strategy limit t.frame.size (t.content text.toList))
  have h₂ := length_truncated_le (t.content text.toList) hs hl
  unfold encode
  omega

end Tokenizer

end SequenceClassification
