import SequenceClassification.Entries
import SequenceClassification.Json.Equality

/-!
Subword vocabularies: how a text without named tokens is cut into pieces, and which ids pieces have. An id is
what a vocabulary gives, which need not be a whole number.
-/
namespace SequenceClassification.Tokenizer

/-- The id of a token. It is missing if a vocabulary gives nothing as the id, or has neither a piece nor its
unknown token. A number with a fraction may also be none, or beyond all numbers. -/
inductive TokenId where
  | missing
  | whole (n : Int)
  | fraction (x : Float)
  | text (s : String)
deriving Repr, DecidableEq, Inhabited

namespace TokenId

/-- The id that a value is. Equal numbers are one id, and truth values count as zero and one. -/
def ofJson? : Json → Option TokenId
  | .null => some .missing
  | .bool b => some (.whole (if b then 1 else 0))
  | .int n => some (.whole n)
  | .float x => some (((Json.float x).wholeNumber?.map .whole).getD (.fraction x))
  | .str s => some (.text s)
  | .arr _ | .obj _ => none

def value : TokenId → Json
  | .missing => .null
  | .whole n => .int n
  | .fraction x => .float x
  | .text s => .str s

def isNumber : TokenId → Bool
  | .whole _ | .fraction _ => true
  | _ => false

def isText : TokenId → Bool
  | .text _ => true
  | _ => false

/-- Whether different ids have an order: numbers have one, and texts. -/
def haveOrder (ids : List TokenId) : Bool := ids.length ≤ 1 || ids.all isNumber || ids.all isText

end TokenId

structure Subwords where
  vocabulary : Entries String TokenId
  pieces : List Char → List String
  idOf : String → TokenId

namespace Subwords

def idOrUnknown (vocabulary : Entries String TokenId) (unknown : String) (piece : String) : TokenId :=
  match Entries.get? piece vocabulary with
  | some id => id
  | none => (Entries.get? unknown vocabulary).getD .missing

/-- A piece of the vocabulary has its id there. -/
theorem idOrUnknown_of_get? {vocabulary : Entries String TokenId} {piece : String} {id : TokenId}
    (unknown : String) (h : Entries.get? piece vocabulary = some id) :
    idOrUnknown vocabulary unknown piece = id := by
  simp [idOrUnknown, h]

end Subwords

end SequenceClassification.Tokenizer
