/-!
Floating-point values as exact numbers `m * 2 ^ q`, read off the bits of a 64-bit value.
-/
namespace SequenceClassification.Decimal

def twoTo (n : Nat) : Nat := Nat.pow 2 n

def tenTo (n : Nat) : Nat := Nat.pow 10 n

/-- A finite non-negative value `m * 2 ^ q`. -/
structure Binary where
  m : Nat
  q : Int
  /-- The gap to the value below is half the gap to the value above. -/
  narrowBelow : Bool
deriving Repr, DecidableEq

def Binary.ofBits (b : UInt64) : Binary :=
  let e := ((b >>> 52) &&& 0x7FF).toNat
  let f := (b &&& 0xFFFFFFFFFFFFF).toNat
  if e == 0 then ⟨f, -1074, false⟩ else ⟨twoTo 52 + f, (e : Int) - 1075, f == 0 && decide (1 < e)⟩

def isNegative (x : Float) : Bool := x.toBits >>> 63 == 1

def Binary.ofFloat (x : Float) : Binary := Binary.ofBits x.toBits

def truncate (x : Float) : Int :=
  let v := Binary.ofFloat x
  let whole : Nat := if 0 ≤ v.q then v.m * twoTo v.q.toNat else v.m / twoTo (-v.q).toNat
  if isNegative x then -(whole : Int) else whole

def isWhole (x : Float) : Bool :=
  let v := Binary.ofFloat x
  0 ≤ v.q || v.m % twoTo (-v.q).toNat == 0

end SequenceClassification.Decimal
