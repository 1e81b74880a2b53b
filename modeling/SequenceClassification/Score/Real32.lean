import SequenceClassification.Score.Real64

/-!
Logits as 64-bit and probabilities as 32-bit floating-point values.
-/
namespace SequenceClassification.Score

/-- The 64-bit value that equals a 32-bit value. Rounding only moves the binary point here, as every
32-bit value has a 64-bit one. -/
def widen (x : Float32) : Float :=
  .ofModel (.pack (match x.toModel.unpack with
    | .finite sign mantissa exponent _ => .round .binary64 sign mantissa exponent
    | special => special))

/-- The probabilities of a row of logits. Every step is rounded to 32 bits. -/
def softmax32 (row : List Float32) : List Float32 :=
  let top := row.foldl (fun m x => if m < x || x.isNaN then x else m) (row.headD 0)
  let powers := row.map fun x => exp32 (x - top)
  let total := powers.foldl (· + ·) 0
  powers.map (· / total)

/-- Whether the first probability is strictly better; what is no number counts as best of all. -/
def exceeds32 (a b : Float32) : Bool := b < a || (a.isNaN && !b.isNaN)

end SequenceClassification.Score
