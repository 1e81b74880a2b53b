import SequenceClassification.Score.Arithmetic
import SequenceClassification.Score.Exponential
import SequenceClassification.Json.Value
import SequenceClassification.Failure
import SequenceClassification.Decimal.Reading

/-!
Scores as 64-bit floating-point values, and thresholds as they are supplied: any value is taken, and
what cannot be compared with a number is refused.
-/
namespace SequenceClassification.Score

def upperWord (x : Float) : Nat := (x.toBits >>> 32).toNat

def withUpperWord (x : Float) (w : Nat) : Float :=
  Float.ofBits ((UInt64.ofNat w <<< 32) ||| (x.toBits &&& 0xFFFFFFFF))

def ln2High : Float := Float.ofBits 0x3fe62e42fee00000

def ln2Low : Float := Float.ofBits 0x3dea39ef35793c76

/-- The part of `log (1 + f)` beyond `f - f * f / 2`, as a polynomial in `z = (f / (2 + f)) ^ 2`. -/
def logRemainder (z : Float) : Float :=
  let z2 := z * z
  let z4 := z2 * z2
  let z6 := z4 * z2
  let r1 := z * Float.ofBits 0x3FE5555555555593
  let r2 := Float.ofBits 0x3FD999999997FA04 + z * Float.ofBits 0x3FD2492494229359
  let r3 := Float.ofBits 0x3FCC71C51D8E78AF + z * Float.ofBits 0x3FC7466496CB03DE
  let r4 := Float.ofBits 0x3FC39A09D078C69F + z * Float.ofBits 0x3FC2F112DF3E5244
  r1 + z2 * r2 + z4 * r3 + z6 * r4

/-- `k * log 2 + log (1 + f) + c` for a small `f`; `exact` says that `f` came about without rounding. -/
def logAssemble (k f c : Float) (exact tiny : Bool) : Float :=
  let half := 0.5 * f * f
  if tiny then
    if f == 0 then (if exact then 0 else k * ln2High + (c + k * ln2Low))
    else
      let r := half * (1.0 - 0.66666666666666666 * f)
      if exact then f - r else k * ln2High - ((r - (k * ln2Low + c)) - f)
  else
    let s := f / (2.0 + f)
    let r := logRemainder (s * s)
    if exact then f - (half - s * (half + r))
    else k * ln2High - ((half - (s * (half + r) + (k * ln2Low + c))) - f)

/-- `log (1 - t)` for `t` between zero and one. The argument is brought to `2 ^ k * (1 + f)` with a small
`f`, and what rounding `1 - t` loses is added back. -/
def logOneLess64 (t : Float) : Float :=
  let x := -t
  let size := upperWord t
  if size < 0x3e200000 then
    if size < 0x3c900000 then x else x - x * x * 0.5
  else if upperWord x ≤ 0xbfd2bec4 then logAssemble 0 x 0 true false
  else
    let u := 1.0 + x
    let w := upperWord u
    let k : Int := (w / 0x100000 : Nat) - 1023
    let c := (if 0 < k then 1.0 - (u - x) else x - (u - 1.0)) / u
    let low := w % 0x100000
    if low < 0x6a09e then
      logAssemble (Float.ofInt k) (withUpperWord u (low + 0x3ff00000) - 1.0) c false (low == 0)
    else
      logAssemble (Float.ofInt (k + 1)) (withUpperWord u (low + 0x3fe00000) - 1.0) c false
        ((0x100000 - low) / 4 == 0)

def sigmoid64 (x : Float) : Float := 1 / (1 + exp64 (-x))

def real64 : Arithmetic Float where
  zero := 0
  one := 1
  bottom := -1 / 0
  top := 1 / 0
  atMost := fun a b => decide (a ≤ b)
  sub := fun a b => a - b
  log := Float.log
  logOneLess := logOneLess64
  sigmoid := sigmoid64

/-- The cutoff of a threshold as it is supplied. A whole number decides by its sign; what is no number
cannot be compared. -/
def suppliedCutoff : Json → Except Failure Float
  | .float t => .ok (logitCutoff real64 t)
  | .int n => .ok (if n ≤ 0 then real64.bottom else real64.top)
  | .bool b => .ok (if b then real64.top else real64.bottom)
  | v => .error (.wrongType ("'<=' not supported between instances of '" ++ v.kindName ++
      "' and 'float'"))

/-- Only values that are no number are refused as thresholds. -/
theorem suppliedCutoff_isOk_iff (v : Json) :
    (suppliedCutoff v).isOk = true ↔ v.kindName = "int" ∨ v.kindName = "bool" ∨ v.kindName = "float" := by
  cases v <;> simp [suppliedCutoff, Json.kindName, Except.isOk, Except.toBool]

end SequenceClassification.Score
