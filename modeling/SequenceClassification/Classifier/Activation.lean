/-!
Activation functions of feed-forward layers, by the names that configurations give them.
-/
namespace SequenceClassification.Classifier

inductive Activation where
  | gelu
  | geluTanh
  | relu
deriving Repr, DecidableEq, Inhabited

def Activation.named : List (String × Activation) :=
  [("gelu", .gelu), ("gelu_new", .geluTanh), ("relu", .relu)]

def Activation.ofName? (name : String) : Option Activation :=
  (Activation.named.find? fun e => e.1 == name).map Prod.snd

/-- Adds up `count` terms of the series of the error function, of which the `n`-th is `term`. -/
def errorSeries (square : Float) : Nat → Nat → Float → Float → Float
  | 0, _, _, sum => sum
  | count + 1, n, term, sum =>
    errorSeries square count (n + 1) (term * 2 * square / (2 * n.toFloat + 3)) (sum + term)

def pi : Float := 3.141592653589793

/-- The error function: its series of positive terms, and one where that is the nearest number. -/
def errorFunction (x : Float) : Float :=
  if x > 6 then 1
  else if x < -6 then -1
  else 2 / pi.sqrt * (-(x * x)).exp * errorSeries (x * x) 160 0 x 0

def Activation.apply (a : Activation) (x : Float) : Float :=
  match a with
  | .gelu => 0.5 * x * (1 + errorFunction (x / Float.sqrt 2))
  | .geluTanh => 0.5 * x * (1 + Float.tanh ((2 / pi).sqrt * (x + 0.044715 * x * x * x)))
  | .relu => if x > 0 then x else 0

/-- An activation is found under its name. -/
theorem ofName?_named : ∀ e ∈ Activation.named, Activation.ofName? e.1 = some e.2 := by
  decide

end SequenceClassification.Classifier
