import SequenceClassification.Classifier.Activation
import SequenceClassification.Classifier.Linear

/-!
Attention and the blocks that are built from it. A block attends to the sequence itself and perhaps to a
second one, and then applies a feed-forward step; each step is added to its input and normalised. Main
statement: a stack of blocks has one output for each position.
-/
namespace SequenceClassification.Classifier

structure Attention where
  query : Affine
  key : Affine
  value : Affine
  output : Affine
  heads : Nat
deriving Inhabited

abbrev Visible := Nat → Nat → Bool

def lookingBack : Visible := fun i j => decide (j ≤ i)

/-- What is added to the score of a position that may not be looked at: the lowest number of 32 bits. -/
def lowest : Float := -340282346638528859811704183484516925440

def part (size head : Nat) (v : Vector) : Vector := (v.drop (head * size)).take size

def gather (size : Nat) (visible : Visible) (i : Nat) (query : Vector) (keys values : List Vector) :
    Vector :=
  let scores := keys.zipIdx.map fun (key, j) =>
    dot query key / size.toFloat.sqrt + (if visible i j then 0 else lowest)
  mixture size (weights scores) values

def Attention.apply (a : Attention) (visible : Visible) (xs memory : List Vector) : List Vector :=
  let keys := memory.map a.key.apply
  let values := memory.map a.value.apply
  let size := (a.query.bias.length) / a.heads
  let byHead := (List.range a.heads).map fun h => (keys.map (part size h), values.map (part size h), h)
  xs.zipIdx.map fun (x, i) =>
    let query := a.query.apply x
    a.output.apply (byHead.flatMap fun (ks, vs, h) => gather size visible i (part size h query) ks vs)

structure Block where
  attention : Attention
  attentionNorm : Norm
  cross : Option (Attention × Norm) := none
  inner : Affine
  outer : Affine
  norm : Norm
  activation : Activation
deriving Inhabited

def residual (norm : Norm) (xs ys : List Vector) : List Vector :=
  xs.zipWith (fun x y => norm.apply (plus x y)) ys

def Block.feed (b : Block) (x : Vector) : Vector :=
  b.outer.apply ((b.inner.apply x).map b.activation.apply)

/-- The output of a block; `visible` is for the sequence itself, and `memory` is what is attended to
besides, with its own visibility. -/
def Block.apply (b : Block) (visible : Visible) (memory : List Vector × Visible) (xs : List Vector) :
    List Vector :=
  let xs := residual b.attentionNorm xs (b.attention.apply visible xs xs)
  let xs := match b.cross with
    | none => xs
    | some (attention, norm) => residual norm xs (attention.apply memory.2 xs memory.1)
  residual b.norm xs (xs.map b.feed)

def applyBlocks (blocks : List Block) (visible : Visible) (memory : List Vector × Visible)
    (xs : List Vector) : List Vector :=
  blocks.foldl (fun xs b => b.apply visible memory xs) xs

theorem Attention.length_apply (a : Attention) (visible : Visible) (xs memory : List Vector) :
    (a.apply visible xs memory).length = xs.length := by
  simp [Attention.apply]

theorem Block.length_apply (b : Block) (visible : Visible) (memory : List Vector × Visible)
    (xs : List Vector) : (b.apply visible memory xs).length = xs.length := by
  unfold Block.apply
  cases b.cross <;> simp [residual, Attention.length_apply]

/-- A stack of blocks has one output for each position. -/
theorem length_applyBlocks (blocks : List Block) (visible : Visible) (memory : List Vector × Visible)
    (xs : List Vector) : (applyBlocks blocks visible memory xs).length = xs.length := by
  unfold applyBlocks
  induction blocks generalizing xs with
  | nil => rfl
  | cons b blocks ih => rw [List.foldl_cons, ih, Block.length_apply]

end SequenceClassification.Classifier
