/-!
Pieces of a unigram model: a text, a score, and a kind. Normal pieces are matched against texts; control
pieces never are; one piece stands for what is unknown.
-/
namespace SequenceClassification.Tokenizer

inductive PieceKind where
  | normal
  | unknown
  | control
deriving Repr, DecidableEq, Inhabited

structure Piece where
  text : String
  score : Float32
  kind : PieceKind
deriving Inhabited

end SequenceClassification.Tokenizer
