import Mathlib
import SequenceClassification.Proofs.Score.Comparing
import SequenceClassification.Proofs.Score.Rounding

/-!
Widening loses nothing. A 32-bit value is rounded to 64 bits by moving its mantissa up to 53 bits, which
changes the way it is written and not the number. So widening makes a number of a number and of nothing
else, and keeps the order of numbers.
-/
namespace SequenceClassification.Score

open Float.Model (Format UnpackedFloat totalExponent)
open Float.Model.UnpackedFloat

/-- The finite values of the 32-bit format: 24 bits of mantissa, the highest of which is only missing at the
lowest exponent. -/
def Canonical32 : UnpackedFloat → Prop
  | .finite _ mantissa exponent _ => mantissa < 2 ^ 24 ∧ -149 ≤ exponent ∧ exponent ≤ 104 ∧
      (2 ^ 23 ≤ mantissa ∨ exponent = -149)
  | _ => True

theorem canonical32_unpack (b : BitVec Format.binary32.numBits) :
    Canonical32 (unpack Format.binary32 b) := by
  have hmantissa : (unpackMantissa b).toNat < 2 ^ 23 := (unpackMantissa b).isLt
  have hexponent : (unpackExponent b).toNat < 2 ^ 8 := (unpackExponent b).isLt
  have hbias : Format.binary32.exponentBias = 127 := rfl
  unfold unpack
  dsimp only
  split
  · split <;> trivial
  · rename_i htop
    split
    · split
      · trivial
      · rename_i hzero _
        have hlowest : (unpackExponent b).toNat = 0 := by rw [hzero]; rfl
        simp only [Canonical32, hlowest, hbias]
        omega
    · rename_i hzero
      have hpos : (unpackExponent b).toNat ≠ 0 := fun h => hzero (BitVec.eq_of_toNat_eq h)
      have hlt : (unpackExponent b).toNat ≠ 255 := fun h => htop (BitVec.eq_of_toNat_eq h)
      simp only [Canonical32, toNat_implicit_append, hbias]
      omega

/-- A mantissa of 53 bits within the 64-bit range of exponents is packed without loss. -/
theorem unpack_pack_normal (sign : Sign) {m : ℕ} {e : ℤ} (hpos : 0 < m) (hlow : 2 ^ 52 ≤ m)
    (hhigh : m < 2 ^ 53) (he : -1074 ≤ e) (he' : e ≤ 971) :
    unpack Format.binary64 (pack Format.binary64 (.finite sign m e hpos)) = .finite sign m e hpos := by
  have hbiased : biased Format.binary64 e = (e + (1023 : ℕ) + (52 : ℕ)).toNat := rfl
  have hrange : biased Format.binary64 e + 1 < 2048 := by omega
  exact repack_of_canonical (by decide) hpos ⟨hhigh, he, .inl hlow⟩ hrange

/-- How many bits a mantissa has to be moved up to fill 53. -/
def spare (m : ℕ) : ℕ := 52 - m.log2

theorem shiftLeft_spare_pos {m : ℕ} (hpos : 0 < m) : 0 < m <<< spare m := by
  rw [Nat.shiftLeft_eq]
  exact Nat.mul_pos hpos (Nat.two_pow_pos _)

theorem shiftLeft_spare_bounds {m : ℕ} (hpos : 0 < m) (hm : m < 2 ^ 53) :
    2 ^ 52 ≤ m <<< spare m ∧ m <<< spare m < 2 ^ 53 := by
  have hlow : 2 ^ m.log2 ≤ m := Nat.log2_self_le (by omega)
  have hhigh : m < 2 ^ (m.log2 + 1) := Nat.lt_log2_self
  have hlog : m.log2 < 53 := (Nat.log2_lt (by omega)).2 hm
  have hsum : m.log2 + spare m = 52 := by
    rw [spare]
    omega
  rw [Nat.shiftLeft_eq]
  constructor
  · calc 2 ^ 52 = 2 ^ m.log2 * 2 ^ spare m := by rw [← Nat.pow_add, hsum]
      _ ≤ m * 2 ^ spare m := Nat.mul_le_mul_right _ hlow
  · calc m * 2 ^ spare m < 2 ^ (m.log2 + 1) * 2 ^ spare m :=
          Nat.mul_lt_mul_of_pos_right hhigh (Nat.two_pow_pos _)
      _ = 2 ^ 53 := by rw [← Nat.pow_add, Nat.add_right_comm, hsum]

section
variable {spec : Format} {m : ℕ} {e : ℤ}

theorem shiftToTargetExponent_of_eq (h : spec.targetExponent (totalExponent m e) = e) :
    shiftToTargetExponent spec m e .exact = (⟨m, false, false⟩, e) := by
  simp [shiftToTargetExponent, shiftToExponent, h, ExtendedMantissa.ofMantissaAndAccuracy]
  rfl

/-- What has its exponent already is not rounded. -/
theorem roundWithAccuracy_of_eq (sign : Sign) (hpos : 0 < m)
    (h : spec.targetExponent (totalExponent m e) = e) :
    roundWithAccuracy spec sign m e .exact = .finite sign m e hpos := by
  have hrounded : (⟨m, false, false⟩ : ExtendedMantissa).roundedMantissa = m := rfl
  simp only [roundWithAccuracy, shiftToTargetExponent_of_eq h, hrounded]
  rw [dif_neg (by omega)]

/-- A short mantissa is moved up and keeps all its bits. -/
theorem round_of_short (sign : Sign) (hpos : 0 < m) (hm : m < 2 ^ 53) (he : -1074 ≤ e - spare m) :
    UnpackedFloat.round Format.binary64 sign m e =
      .finite sign (m <<< spare m) (e - spare m) (shiftLeft_spare_pos hpos) := by
  obtain ⟨hlow, hhigh⟩ := shiftLeft_spare_bounds hpos hm
  have hlog : m.log2 < 53 := (Nat.log2_lt (by omega)).2 hm
  have hlog' : (m <<< spare m).log2 = 52 := (Nat.log2_eq_iff (by omega)).2 ⟨hlow, hhigh⟩
  have hmin : Format.binary64.minExponent = -1074 := rfl
  have hbits : Format.binary64.mantissaBits = 53 := rfl
  have htarget : Format.binary64.targetExponent (totalExponent m e) = e - spare m := by
    simp only [Format.targetExponent, totalExponent, hmin, hbits, spare] at he ⊢
    omega
  have hshift : decreaseExponent m e (e - spare m) = (m <<< spare m, e - spare m) := by
    simp [decreaseExponent]
  have hfixed : Format.binary64.targetExponent (totalExponent (m <<< spare m) (e - spare m)) =
      e - spare m := by
    simp only [Format.targetExponent, totalExponent, hmin, hbits, hlog']
    omega
  simp only [UnpackedFloat.round, htarget, hshift]
  exact roundWithAccuracy_of_eq sign _ hfixed

end

/-- The same value with a mantissa of 53 bits. -/
def stretch : UnpackedFloat → UnpackedFloat
  | .finite sign m e hpos => .finite sign (m <<< spare m) (e - spare m) (shiftLeft_spare_pos hpos)
  | special => special

theorem isNaN_stretch (f : UnpackedFloat) : (stretch f).isNaN = f.isNaN := by
  cases f <;> rfl

/-- What a widened value is, whatever it was. -/
theorem unpack_widen (x : Float32) : (widen x).toModel.unpack = stretch x.toModel.unpack := by
  have hcanonical : Canonical32 x.toModel.unpack := canonical32_unpack _
  change unpack Format.binary64 (pack Format.binary64 _) = _
  cases hx : x.toModel.unpack with
  | notANumber => rfl
  | zero sign => cases sign <;> rfl
  | infinity sign => cases sign <;> rfl
  | finite sign m e hpos =>
    rw [hx] at hcanonical
    obtain ⟨hm, hlow, hhigh, -⟩ := hcanonical
    have hspare : spare m ≤ 52 := Nat.sub_le ..
    obtain ⟨hlow', hhigh'⟩ := shiftLeft_spare_bounds hpos (show m < 2 ^ 53 by omega)
    dsimp only
    rw [round_of_short sign hpos (by omega) (by omega)]
    exact unpack_pack_normal sign _ hlow' hhigh' (by omega) (by omega)

theorem isNaN_widen (x : Float32) : (widen x).isNaN = x.isNaN := by
  change (widen x).toModel.unpack.isNaN = x.toModel.unpack.isNaN
  rw [unpack_widen, isNaN_stretch]

/-- Of two 32-bit sizes, the one with the smaller exponent, or with the smaller mantissa at one exponent,
stays the smaller one. -/
theorem size_stretch_le {m m' : ℕ} {e e' : ℤ} (hpos : 0 < m) (hm : m < 2 ^ 24) (hlow : -149 ≤ e)
    (hnormal : 2 ^ 23 ≤ m' ∨ e' = -149) (h : e < e' ∨ e = e' ∧ m ≤ m') :
    e - spare m < e' - spare m' ∨ e - spare m = e' - spare m' ∧ m <<< spare m ≤ m' <<< spare m' := by
  have hlog : m.log2 < 24 := (Nat.log2_lt (by omega)).2 hm
  rcases h with hlt | ⟨rfl, hle⟩
  · -- above the lowest exponent all 24 bits are used, so the mantissa is moved up no further
    have hlog' : 23 ≤ m'.log2 := (Nat.le_log2 (by omega)).2 (hnormal.resolve_right (by omega))
    left
    simp only [spare]
    omega
  · have hlog' : m.log2 ≤ m'.log2 :=
      (Nat.le_log2 (by omega)).2 ((Nat.log2_self_le (by omega)).trans hle)
    rcases Nat.lt_or_eq_of_le hlog' with hlt | heq
    · left
      simp only [spare]
      omega
    · right
      have hspare : spare m = spare m' := by rw [spare, heq, spare]
      refine ⟨by rw [hspare], ?_⟩
      rw [hspare, Nat.shiftLeft_eq, Nat.shiftLeft_eq]
      exact Nat.mul_le_mul_right _ hle

theorem place_stretch_le {a b : UnpackedFloat} (ha : Canonical32 a) (hb : Canonical32 b)
    (h : place a ≤ place b) : place (stretch a) ≤ place (stretch b) := by
  cases a with
  | notANumber | infinity s | zero s =>
    cases b with
    | notANumber | infinity t | zero t => exact h
    | finite t _ _ _ =>
      revert h
      cases t <;> try cases s
      all_goals simp [place, stretch, Prod.Lex.toLex_le_toLex]
  | finite s m e hpos =>
    cases b with
    | notANumber | infinity t | zero t =>
      revert h
      cases s <;> try cases t
      all_goals simp [place, stretch, Prod.Lex.toLex_le_toLex]
    | finite t m' e' hpos' =>
      obtain ⟨hm, hlow, -, hnormal⟩ := ha
      obtain ⟨hm', hlow', -, hnormal'⟩ := hb
      cases s <;> cases t
      case negative.negative =>
        exact place_negative_le_iff.2
          (size_stretch_le hpos' hm' hlow' hnormal (place_negative_le_iff.1 h))
      case positive.positive =>
        exact place_positive_le_iff.2 (size_stretch_le hpos hm hlow hnormal' (place_positive_le_iff.1 h))
      all_goals
        revert h
        simp [place, stretch, Prod.Lex.toLex_le_toLex]

/-- Widening keeps the order of numbers. -/
theorem widen_le_widen {x y : Float32} (hx : x.isNaN = false) (hy : y.isNaN = false)
    (h : place32 x ≤ place32 y) : widen x ≤ widen y := by
  have hplace := place_stretch_le (canonical32_unpack _) (canonical32_unpack _) h
  have hx' : (widen x).isNaN = false := (isNaN_widen x).trans hx
  have hy' : (widen y).isNaN = false := (isNaN_widen y).trans hy
  rw [le64_iff, le_iff_place hx' hy', unpack_widen, unpack_widen]
  exact hplace

end SequenceClassification.Score
