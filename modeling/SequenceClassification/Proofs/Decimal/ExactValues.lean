import Mathlib
import SequenceClassification.Decimal.Binary
import SequenceClassification.Proofs.Score.Widening

/-!
Floating-point values as exact rational numbers. The fields of the bits are those of the unpacked value, so
that truncating drops the fraction of the exact value. Main statements: a finite value is truncated to the
whole part of its exact value, which for a whole number is that number, and every whole number of at most 53
bits is such a value.
-/
namespace SequenceClassification.Decimal

open Float.Model (Format UnpackedFloat)
open Float.Model.UnpackedFloat

def exactValue? : UnpackedFloat → Option ℚ
  | .zero _ => some 0
  | .finite sign m e _ => some (sign.apply m * 2 ^ e)
  | _ => none

def HasValue (x : Float) (q : ℚ) : Prop := exactValue? x.toModel.unpack = some q

section
variable (b : UInt64)

theorem toNat_exponentField :
    ((b >>> 52) &&& 0x7FF).toNat = (@unpackExponent Format.binary64 b.toBitVec).toNat := by
  have hbits : (@unpackExponent Format.binary64 b.toBitVec).toNat = b.toNat >>> 52 % 2 ^ 11 :=
    BitVec.extractLsb_toNat 62 52 b.toBitVec
  rw [hbits, UInt64.toNat_and, UInt64.toNat_shiftRight]
  exact Nat.and_two_pow_sub_one_eq_mod _ 11

theorem toNat_mantissaField :
    (b &&& 0xFFFFFFFFFFFFF).toNat = (@unpackMantissa Format.binary64 b.toBitVec).toNat := by
  have hbits : (@unpackMantissa Format.binary64 b.toBitVec).toNat = b.toNat >>> 0 % 2 ^ 52 :=
    BitVec.extractLsb_toNat 51 0 b.toBitVec
  rw [hbits, UInt64.toNat_and]
  exact Nat.and_two_pow_sub_one_eq_mod _ 52

theorem toNat_signField :
    (b >>> 63).toNat = (@unpackSign Format.binary64 b.toBitVec).toNat := by
  have hbits : (@unpackSign Format.binary64 b.toBitVec).toNat = b.toNat >>> 63 % 2 ^ 1 :=
    BitVec.extractLsb_toNat 63 63 b.toBitVec
  have hlt := b.toNat_lt
  rw [hbits, UInt64.toNat_shiftRight]
  change b.toNat >>> 63 = _
  omega

end

theorem ofBitVec_eq_negative_iff (s : BitVec 1) : Sign.ofBitVec s = .negative ↔ s.toNat = 1 := by
  have hlt := s.isLt
  unfold Sign.ofBitVec
  split
  · rename_i hzero
    simp [hzero]
  · rename_i hzero
    have hne : s.toNat ≠ 0 := fun h => hzero (BitVec.eq_of_toNat_eq h)
    simp only [true_iff]
    omega

section
variable {x : Float}

/-- The mantissa, the exponent and the sign read off the bits are those of the value. -/
theorem ofFloat_of_finite {sign : Sign} {m : ℕ} {e : ℤ} {hpos : 0 < m}
    (h : x.toModel.unpack = .finite sign m e hpos) :
    (Binary.ofFloat x).m = m ∧ (Binary.ofFloat x).q = e ∧ (isNegative x = true ↔ sign = .negative) := by
  change unpack Format.binary64 x.toBits.toBitVec = _ at h
  have hnegative : isNegative x = true ↔
      (@unpackSign Format.binary64 x.toBits.toBitVec).toNat = 1 := by
    rw [isNegative, beq_iff_eq, ← UInt64.toNat_inj, toNat_signField]
    rfl
  rw [hnegative, ← ofBitVec_eq_negative_iff, Binary.ofFloat, Binary.ofBits, toNat_exponentField,
    toNat_mantissaField]
  unfold unpack at h
  dsimp only at h ⊢
  have hbias : Format.binary64.exponentBias = 1023 := rfl
  split at h
  · split at h <;> cases h
  · split at h
    · rename_i hlowest
      split at h
      · cases h
      · cases h
        simp [hlowest, hbias]
    · rename_i hlowest
      have hne : (@unpackExponent Format.binary64 x.toBits.toBitVec).toNat ≠ 0 := fun hzero =>
        hlowest (BitVec.eq_of_toNat_eq hzero)
      injection h with hsign hmantissa hexponent
      rw [Score.toNat_implicit_append] at hmantissa
      rw [if_neg (by simpa using hne)]
      refine ⟨hmantissa, ?_, by rw [hsign]⟩
      dsimp only
      omega

theorem ofFloat_of_zero {sign : Sign} (h : x.toModel.unpack = .zero sign) : (Binary.ofFloat x).m = 0 := by
  change unpack Format.binary64 x.toBits.toBitVec = _ at h
  rw [Binary.ofFloat, Binary.ofBits, toNat_exponentField, toNat_mantissaField]
  unfold unpack at h
  dsimp only at h ⊢
  split at h
  · split at h <;> cases h
  · split at h
    · rename_i hlowest
      split at h
      · rename_i hzero
        simp [hlowest, hzero]
      · cases h
    · cases h

theorem isNaN_of_hasValue {q : ℚ} (h : HasValue x q) : x.isNaN = false := by
  change x.toModel.unpack.isNaN = false
  unfold HasValue at h
  cases hx : x.toModel.unpack with
  | notANumber => simp [hx, exactValue?] at h
  | zero | infinity | finite => rfl

theorem isInf_of_hasValue {q : ℚ} (h : HasValue x q) : x.isInf = false := by
  change x.toModel.unpack.isInf = false
  unfold HasValue at h
  cases hx : x.toModel.unpack with
  | infinity => simp [hx, exactValue?] at h
  | zero | notANumber | finite => rfl

/-- The whole part of a mantissa at an exponent. -/
theorem floor_scaled (m : ℕ) (e : ℤ) :
    (if 0 ≤ e then m * twoTo e.toNat else m / twoTo (-e).toNat) = ⌊(m : ℚ) * 2 ^ e⌋₊ := by
  by_cases he : 0 ≤ e
  · obtain ⟨n, rfl⟩ := Int.eq_ofNat_of_zero_le he
    have hcast : (m : ℚ) * 2 ^ (n : ℤ) = ((m * 2 ^ n : ℕ) : ℚ) := by
      rw [zpow_natCast]
      push_cast
      rfl
    rw [if_pos he, hcast, Nat.floor_natCast]
    rfl
  · obtain ⟨n, hn⟩ := Int.eq_ofNat_of_zero_le (show 0 ≤ -e by omega)
    obtain rfl : e = -(n : ℤ) := by omega
    have hcast : (m : ℚ) * 2 ^ (-(n : ℤ)) = (m : ℚ) / ((2 ^ n : ℕ) : ℚ) := by
      rw [zpow_neg, zpow_natCast, ← div_eq_mul_inv]
      push_cast
      rfl
    rw [if_neg he, hcast, Nat.floor_div_eq_div, neg_neg]
    rfl

theorem exists_hasValue (hnan : x.isNaN = false) (hinf : x.isInf = false) : ∃ q, HasValue x q := by
  change x.toModel.unpack.isNaN = false at hnan
  change x.toModel.unpack.isInf = false at hinf
  unfold HasValue
  cases hx : x.toModel.unpack with
  | notANumber => simp [hx, isNaN] at hnan
  | infinity => simp [hx, isInf] at hinf
  | zero => exact ⟨0, rfl⟩
  | finite sign m e => exact ⟨sign.apply m * 2 ^ e, rfl⟩

/-- The number without its fraction. -/
def wholePart (q : ℚ) : ℤ := if 0 ≤ q then ⌊q⌋ else ⌈q⌉

theorem wholePart_intCast (n : ℤ) : wholePart n = n := by
  rw [wholePart, Int.floor_intCast, Int.ceil_intCast, ite_self]

/-- Truncating drops the fraction of the exact value. -/
theorem truncate_eq_wholePart {q : ℚ} (h : HasValue x q) : truncate x = wholePart q := by
  unfold HasValue at h
  cases hx : x.toModel.unpack with
  | notANumber => simp [hx, exactValue?] at h
  | infinity => simp [hx, exactValue?] at h
  | zero =>
    rw [hx, exactValue?, Option.some.injEq] at h
    subst h
    simp [truncate, ofFloat_of_zero hx, wholePart]
  | finite sign m e hpos =>
    obtain ⟨hm, hq, hsign⟩ := ofFloat_of_finite hx
    rw [hx, exactValue?, Option.some.injEq] at h
    have hsize : (0 : ℚ) < m * 2 ^ e := by positivity
    rw [truncate, hm, hq, floor_scaled]
    cases sign with
    | positive =>
      have hvalue : (m : ℚ) * 2 ^ e = q := h
      rw [if_neg (by simp [hsign]), Int.natCast_floor_eq_floor hsize.le, wholePart,
        if_pos (hvalue ▸ hsize.le), hvalue]
    | negative =>
      have hvalue : q = -((m : ℚ) * 2 ^ e) := by
        rw [← neg_mul]
        exact_mod_cast h.symm
      have hbelow : ¬ 0 ≤ q := by
        rw [hvalue, not_le, neg_lt_zero]
        exact hsize
      rw [if_pos (hsign.2 rfl), Int.natCast_floor_eq_floor hsize.le, wholePart, if_neg hbelow, hvalue,
        Int.ceil_neg]

/-- A value equal to a whole number is truncated to that number. -/
theorem truncate_of_hasValue {n : ℤ} (h : HasValue x n) : truncate x = n :=
  (truncate_eq_wholePart h).trans (wholePart_intCast n)

end

/-- A whole number as a value whose mantissa fills its 53 bits. -/
def ofWhole (n : ℕ) : Float :=
  .ofModel (.pack (if h : 0 < n then
    .finite .positive (n <<< Score.spare n) (-Score.spare n) (Score.shiftLeft_spare_pos h)
  else .zero .positive))

/-- Every whole number of at most 53 bits is a floating-point value. -/
theorem hasValue_ofWhole {n : ℕ} (h : n < 2 ^ 53) : HasValue (ofWhole n) n := by
  by_cases hpos : 0 < n
  · obtain ⟨hlow, hhigh⟩ := Score.shiftLeft_spare_bounds hpos h
    have hspare : Score.spare n ≤ 52 := Nat.sub_le ..
    have hunpack : (ofWhole n).toModel.unpack =
        .finite .positive (n <<< Score.spare n) (-Score.spare n) (Score.shiftLeft_spare_pos hpos) := by
      rw [ofWhole, dif_pos hpos]
      exact Score.unpack_pack_normal _ _ hlow hhigh (by omega) (by omega)
    have hvalue : ((n <<< Score.spare n : ℕ) : ℚ) * 2 ^ (-(Score.spare n : ℤ)) = n := by
      rw [Nat.shiftLeft_eq, zpow_neg, zpow_natCast]
      push_cast
      rw [mul_assoc, mul_inv_cancel₀ (by positivity), mul_one]
    rw [HasValue, hunpack, exactValue?, Option.some.injEq, ← hvalue]
    rfl
  · obtain rfl : n = 0 := by omega
    rfl

end SequenceClassification.Decimal
