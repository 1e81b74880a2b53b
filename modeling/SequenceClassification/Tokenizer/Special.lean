import SequenceClassification.Family
import SequenceClassification.Tokenizer.NamedTokens
import SequenceClassification.Tokenizer.Subwords

/-!
Special tokens of the families: those that open and close a sequence, pad it, mask a word, or stand for
what is unknown. Main statement: a sequence has exactly as many ids more than its content as the family's
frame has special tokens, unless a closing token is already there.
-/
namespace SequenceClassification.Tokenizer

def specialTokens : Family → List NamedToken
  | .bert | .distilBert | .electra =>
    [{ text := "[UNK]" }, { text := "[SEP]" }, { text := "[PAD]" }, { text := "[CLS]" },
      { text := "[MASK]" }]
  | .roberta | .bart | .xlmRoberta =>
    [{ text := "<s>" }, { text := "</s>" }, { text := "<unk>" }, { text := "<pad>" },
      { text := "<mask>", stripLeft := true }]
  | .albert =>
    [{ text := "[CLS]" }, { text := "[SEP]" }, { text := "<unk>" }, { text := "<pad>" },
      { text := "[MASK]", stripLeft := true }]
  | .t5 | .marian => [{ text := "</s>" }, { text := "<unk>" }, { text := "<pad>" }]

def unknownName : Family → String
  | .bert | .distilBert | .electra => "[UNK]"
  | _ => "<unk>"

def padName : Family → String
  | .bert | .distilBert | .electra => "[PAD]"
  | _ => "<pad>"

def openingName? : Family → Option String
  | .bert | .distilBert | .electra | .albert => some "[CLS]"
  | .roberta | .bart | .xlmRoberta => some "<s>"
  | .t5 | .marian => none

def closingName : Family → String
  | .bert | .distilBert | .electra | .albert => "[SEP]"
  | _ => "</s>"

/-- Whether a content that ends in the closing token is closed already. -/
def closesOnce : Family → Bool
  | .t5 => true
  | _ => false

def placeholderCount : Nat := 100

/-- The numbered placeholders: the last one comes right behind the `size` pieces. -/
def placeholders (size : Nat) : NamedTokens :=
  (List.range placeholderCount).foldl (fun n i =>
    n.add { text := "<extra_id_" ++ toString i ++ ">", stripLeft := true, stripRight := true }
      (.whole (size + placeholderCount - 1 - i : Nat))) {}

structure Frame where
  opening : List TokenId
  closing : TokenId
  closesOnce : Bool
deriving Repr, DecidableEq

namespace Frame

def size (f : Frame) : Nat := f.opening.length + 1

def around (f : Frame) (content : List TokenId) : List TokenId :=
  if f.closesOnce && content.getLast? == some f.closing then f.opening ++ content
  else f.opening ++ content ++ [f.closing]

/-- The special tokens are all that is added. -/
theorem length_around_le (f : Frame) (content : List TokenId) :
    (f.around content).length ≤ content.length + f.size := by
  unfold around size
  split <;> simp <;> omega

/-- A frame that always closes adds all its special tokens. -/
theorem length_around {f : Frame} (h : f.closesOnce = false) (content : List TokenId) :
    (f.around content).length = content.length + f.size := by
  simp [around, size, h]
  omega

end Frame

/-- The name of the padding token is special. -/
theorem padName_mem (f : Family) : padName f ∈ (specialTokens f).map NamedToken.text := by
  cases f <;> decide

end SequenceClassification.Tokenizer
