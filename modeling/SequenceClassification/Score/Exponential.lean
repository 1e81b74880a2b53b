/-!
The exponential of floating-point values. It is computed in fixed point: a number is divided by the logarithm
of two, the series of the exponential is summed for the remainder, and the quotient becomes the exponent of
the result, which is rounded once.
-/
namespace SequenceClassification.Score

open Float.Model (Format UnpackedFloat totalExponent)

def places : Nat := 128

def unit : Nat := 1 <<< places

def logTwo : Nat := 0xb17217f7d1cf79abc9e3b39803f2f6af

def seriesTerms : Nat := 36

/-- `1 + x / i + x ^ 2 / (i * (i + 1)) + …` for a scaled `x`, each term with what follows it. -/
def series (x i : Nat) : Nat → Nat
  | 0 => unit
  | terms + 1 => unit + x * series x (i + 1) terms / (i * unit)

def scaled (mantissa : Nat) (exponent : Int) : Nat :=
  if 0 ≤ exponent + places then mantissa <<< (exponent + places).toNat
  else mantissa >>> (-(exponent + places)).toNat

/-- The exponential of a scaled number, rounded to a format. -/
def expScaled (spec : Format) (x : Int) : UnpackedFloat :=
  .round spec .positive (series (x % logTwo).toNat 1 seriesTerms) (x / logTwo - places)

/-- The exponential of an unpacked value. Beyond eleven binary places before the point it has left the range
of every format here. -/
def expUnpacked (spec : Format) : UnpackedFloat → UnpackedFloat
  | .notANumber => .notANumber
  | .infinity .positive => .infinity .positive
  | .infinity .negative => .zero .positive
  | .zero _ => expScaled spec 0
  | .finite sign mantissa exponent _ =>
    if 11 < totalExponent mantissa exponent then
      match sign with
      | .positive => .infinity .positive
      | .negative => .zero .positive
    else expScaled spec (sign.apply (scaled mantissa exponent))

def exp32 (x : Float32) : Float32 := .ofModel (.pack (expUnpacked .binary32 x.toModel.unpack))

def exp64 (x : Float) : Float := .ofModel (.pack (expUnpacked .binary64 x.toModel.unpack))

end SequenceClassification.Score
