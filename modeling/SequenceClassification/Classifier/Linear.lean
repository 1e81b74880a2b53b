/-!
Vectors, affine maps and layer normalisation. Main statement: an affine map has one output for each of its
rows.
-/
namespace SequenceClassification.Classifier

abbrev Vector := List Float

abbrev Matrix := List Vector

def total (v : Vector) : Float := v.foldl (· + ·) 0

def dot (v w : Vector) : Float := total (v.zipWith (· * ·) w)

def plus (v w : Vector) : Vector := v.zipWith (· + ·) w

def scale (c : Float) (v : Vector) : Vector := v.map (c * ·)

structure Affine where
  weight : Matrix
  bias : Vector
deriving Inhabited

def Affine.apply (f : Affine) (v : Vector) : Vector := plus (f.weight.map fun row => dot row v) f.bias

/-- A normalisation: what the normalised entries are multiplied by, what is added, and what keeps the
deviation from zero. -/
structure Norm where
  gain : Vector
  shift : Vector
  margin : Float
deriving Inhabited

def Norm.apply (n : Norm) (v : Vector) : Vector :=
  let mean := total v / v.length.toFloat
  let centred := v.map (· - mean)
  let deviation := (dot centred centred / v.length.toFloat + n.margin).sqrt
  plus ((centred.map (· / deviation)).zipWith (· * ·) n.gain) n.shift

/-- The weights that sum to one and grow as the exponentials of the scores. -/
def weights (scores : Vector) : Vector :=
  let top := scores.foldl (fun m x => if x > m then x else m) (scores.headD 0)
  let powers := scores.map fun x => (x - top).exp
  let sum := total powers
  powers.map (· / sum)

def mixture (width : Nat) (ws : Vector) (vs : List Vector) : Vector :=
  (ws.zip vs).foldl (fun sum (w, v) => plus sum (scale w v)) (List.replicate width 0)

/-- An affine map whose rows are as many as its added entries has an output for each. -/
theorem Affine.length_apply {f : Affine} (h : f.weight.length = f.bias.length) (v : Vector) :
    (f.apply v).length = f.bias.length := by
  simp [Affine.apply, plus, h]

/-- There is a weight for each score. -/
theorem length_weights (scores : Vector) : (weights scores).length = scores.length := by
  simp [weights]

end SequenceClassification.Classifier
