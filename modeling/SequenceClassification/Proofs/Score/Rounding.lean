import Mathlib
import SequenceClassification.Score.Real32

/-!
Rounding. A positive number is rounded by cutting its mantissa at the place that the format allows and
possibly adding one, which may carry into one more place. Main statements: rounding lowers no power of two
and raises a number by one power of two at most, and packing keeps what was rounded unless it is beyond the
range of the format, which makes it infinite.
-/
namespace SequenceClassification.Score

open Float.Model (Format UnpackedFloat totalExponent)
open Float.Model.UnpackedFloat

theorem mantissa_shiftRight (em : ExtendedMantissa) (n : ℕ) :
    (em >>> n).mantissa = em.mantissa / 2 ^ n := by
  change (n.repeat ExtendedMantissa.shiftRightOne em).mantissa = _
  induction n with
  | zero => simp [Nat.repeat]
  | succ n ih =>
    change (n.repeat ExtendedMantissa.shiftRightOne em).mantissa / 2 = _
    rw [ih, Nat.div_div_eq_div_mul, Nat.pow_succ]

theorem roundedMantissa_bounds (em : ExtendedMantissa) :
    em.mantissa ≤ em.roundedMantissa ∧ em.roundedMantissa ≤ em.mantissa + 1 := by
  obtain ⟨m, roundBit, stickyBit⟩ := em
  cases roundBit <;> cases stickyBit <;>
    simp only [ExtendedMantissa.roundedMantissa, ExtendedMantissa.accuracy, Accuracy.roundToNearestEven]
  all_goals omega

theorem mantissa_ofMantissaAndAccuracy (m : ℕ) (accuracy : Accuracy) :
    (ExtendedMantissa.ofMantissaAndAccuracy m accuracy).mantissa = m := by
  cases accuracy with
  | exact => rfl
  | inexact order => cases order <;> rfl

variable {spec : Format}

/-- The number of bits of a mantissa, and the range of the exponents. -/
theorem format_bounds (hwide : 4 ≤ spec.exponentBits) : ∃ b : ℕ, 8 ≤ b ∧
    2 ^ spec.exponentBits = 2 * b ∧ spec.exponentBias = b - 1 ∧
    spec.minExponent = 3 - b - spec.mantissaBits ∧
    spec.mantissaBits = spec.mantissaBitsWithoutImplicit + 1 := by
  refine ⟨2 ^ (spec.exponentBits - 1), ?_, ?_, rfl, ?_, Nat.add_comm ..⟩
  · calc 8 = 2 ^ 3 := rfl
      _ ≤ 2 ^ (spec.exponentBits - 1) := Nat.pow_le_pow_right (by omega) (by omega)
  · rw [← Nat.pow_succ']
    congr 1
    omega
  · simp [Format.minExponent]

/-- A rounded mantissa at its exponent. If it has one bit too many, it is a power of two and moves up. -/
def carried (spec : Format) (sign : Sign) (r : ℕ) (e : ℤ) : UnpackedFloat :=
  if h : r = 0 then .zero sign
  else if r < 2 ^ spec.mantissaBits then .finite sign r e (Nat.pos_of_ne_zero h)
  else .finite sign (2 ^ spec.mantissaBitsWithoutImplicit) (e + 1) (Nat.two_pow_pos _)

theorem log2_lt_of_div {m k n : ℕ} (h : m.log2 < k + n) : m / 2 ^ n < 2 ^ k := by
  rw [Nat.div_lt_iff_lt_mul (Nat.two_pow_pos n), ← Nat.pow_add]
  exact Nat.lt_of_lt_of_le Nat.lt_log2_self (Nat.pow_le_pow_right (by omega) (by omega))

theorem shiftToTargetExponent_of_lt {r : ℕ} {e : ℤ} (hr : r < 2 ^ spec.mantissaBits)
    (he : spec.minExponent ≤ e) :
    shiftToTargetExponent spec r e .exact = (⟨r, false, false⟩, e) := by
  have hlog : r.log2 < spec.mantissaBits := by
    by_cases hzero : r = 0
    · rw [hzero, Nat.log2_zero, Format.mantissaBits]
      omega
    · exact (Nat.log2_lt hzero).2 hr
  have htarget : spec.targetExponent (totalExponent r e) ≤ e := by
    simp only [Format.targetExponent, totalExponent]
    omega
  have hshift : (spec.targetExponent (totalExponent r e) - e).toNat = 0 := by omega
  simp only [shiftToTargetExponent, shiftToExponent, hshift]
  refine Prod.ext rfl ?_
  simp

theorem shiftToTargetExponent_of_eq_pow {e : ℤ} (he : spec.minExponent ≤ e) :
    ((shiftToTargetExponent spec (2 ^ spec.mantissaBits) e .exact).1.mantissa,
      (shiftToTargetExponent spec (2 ^ spec.mantissaBits) e .exact).2) =
        (2 ^ spec.mantissaBitsWithoutImplicit, e + 1) := by
  have htarget : spec.targetExponent (totalExponent (2 ^ spec.mantissaBits) e) = e + 1 := by
    simp only [Format.targetExponent, totalExponent, Nat.log2_two_pow]
    omega
  have hshift : (e + 1 - e).toNat = 1 := by omega
  simp only [shiftToTargetExponent, htarget, shiftToExponent, hshift, mantissa_shiftRight,
    mantissa_ofMantissaAndAccuracy]
  refine Prod.ext ?_ rfl
  change 2 ^ (1 + spec.mantissaBitsWithoutImplicit) / 2 ^ 1 = _
  rw [Nat.pow_add, Nat.mul_div_cancel_left _ (by decide)]

/-- Rounding cuts the mantissa at the target exponent and adds one at most. -/
theorem exists_roundWithAccuracy (spec : Format) (sign : Sign) {m : ℕ} {e : ℤ} (accuracy : Accuracy)
    (he : e ≤ spec.targetExponent (totalExponent m e)) :
    ∃ r, m / 2 ^ (spec.targetExponent (totalExponent m e) - e).toNat ≤ r ∧
      r ≤ m / 2 ^ (spec.targetExponent (totalExponent m e) - e).toNat + 1 ∧
      r ≤ 2 ^ spec.mantissaBits ∧
      roundWithAccuracy spec sign m e accuracy =
        carried spec sign r (spec.targetExponent (totalExponent m e)) := by
  set t := spec.targetExponent (totalExponent m e) with ht
  set n := (t - e).toNat with hn
  have hexponent : e + n = t := by omega
  have hmin : spec.minExponent ≤ t := le_max_right ..
  set first := ExtendedMantissa.ofMantissaAndAccuracy m accuracy >>> n with hfirst
  have hmantissa : first.mantissa = m / 2 ^ n := by
    rw [hfirst, mantissa_shiftRight, mantissa_ofMantissaAndAccuracy]
  have hcut : m / 2 ^ n < 2 ^ spec.mantissaBits := by
    refine log2_lt_of_div ?_
    simp only [Format.targetExponent, totalExponent] at ht
    omega
  have hshift : shiftToTargetExponent spec m e accuracy = (first, t) := by
    rw [shiftToTargetExponent, ← ht, shiftToExponent, ← hn, hexponent]
  obtain ⟨hlow, hhigh⟩ := roundedMantissa_bounds first
  rw [hmantissa] at hlow hhigh
  refine ⟨first.roundedMantissa, hlow, hhigh, by omega, ?_⟩
  simp only [roundWithAccuracy, hshift]
  rcases Nat.lt_or_ge first.roundedMantissa (2 ^ spec.mantissaBits) with hlt | hge
  · simp only [shiftToTargetExponent_of_lt hlt hmin, carried, if_pos hlt]
  · have hpow : first.roundedMantissa = 2 ^ spec.mantissaBits := by omega
    obtain ⟨hcarry, hnext⟩ := Prod.mk.inj (shiftToTargetExponent_of_eq_pow hmin)
    have hne : ¬ 2 ^ spec.mantissaBits = 0 := (Nat.two_pow_pos _).ne'
    have hne' : ¬ 2 ^ spec.mantissaBitsWithoutImplicit = 0 := (Nat.two_pow_pos _).ne'
    simp only [hpow, hcarry, hnext, carried, dif_neg hne, dif_neg hne', lt_irrefl, if_false]

theorem log2_div_two_pow {m n : ℕ} (h : n ≤ m.log2) (hpos : 0 < m) : (m / 2 ^ n).log2 = m.log2 - n := by
  have hlow : 2 ^ (m.log2 - n) ≤ m / 2 ^ n := by
    rw [Nat.le_div_iff_mul_le (Nat.two_pow_pos n), ← Nat.pow_add, Nat.sub_add_cancel h]
    exact Nat.log2_self_le hpos.ne'
  have hhigh : m / 2 ^ n < 2 ^ (m.log2 - n + 1) := log2_lt_of_div (by omega)
  exact (Nat.log2_eq_iff (by have := Nat.two_pow_pos (m.log2 - n); omega)).2 ⟨hlow, hhigh⟩

theorem log2_shiftLeft {m : ℕ} (hpos : 0 < m) (s : ℕ) : (m <<< s).log2 = m.log2 + s := by
  induction s with
  | zero => rfl
  | succ s ih =>
    have hne : m <<< s ≠ 0 := by
      rw [Nat.shiftLeft_eq]
      exact (Nat.mul_pos hpos (Nat.two_pow_pos s)).ne'
    rw [Nat.shiftLeft_succ, Nat.log2_two_mul hne, ih, Nat.add_assoc]

theorem log2_le_log2_add_one {q r : ℕ} (hr : r ≤ q + 1) (hq : 0 < q) : r.log2 ≤ q.log2 + 1 := by
  by_cases hzero : r = 0
  · rw [hzero, Nat.log2_zero]
    omega
  · have hlt : q < 2 ^ (q.log2 + 1) := Nat.lt_log2_self
    have hlt' : r < 2 ^ (q.log2 + 2) := by
      rw [Nat.pow_succ]
      omega
    exact Nat.lt_succ_iff.1 ((Nat.log2_lt hzero).2 hlt')

theorem log2_mono {q r : ℕ} (h : q ≤ r) (hq : 0 < q) : q.log2 ≤ r.log2 :=
  (Nat.le_log2 (by omega)).2 ((Nat.log2_self_le hq.ne').trans h)

/-- What the mantissa of a number with a total exponent is like when it was rounded to an exponent. -/
structure Rounded (spec : Format) (total : ℤ) (r : ℕ) (t : ℤ) : Prop where
  target : t = spec.targetExponent total
  fits : r ≤ 2 ^ spec.mantissaBits
  full : 2 ^ spec.mantissaBitsWithoutImplicit ≤ r ∨ t = spec.minExponent
  lower : spec.minExponent < total → 0 < r ∧ total ≤ totalExponent r t
  upper : 0 < r → totalExponent r t ≤ max (total + 1) (spec.minExponent + 1)

theorem rounded_of_bounds {m r : ℕ} {e t : ℤ} (hpos : 0 < m)
    (ht : t = spec.targetExponent (totalExponent m e)) (he : e ≤ t)
    (hlow : m / 2 ^ (t - e).toNat ≤ r) (hhigh : r ≤ m / 2 ^ (t - e).toNat + 1)
    (hfits : r ≤ 2 ^ spec.mantissaBits) : Rounded spec (totalExponent m e) r t := by
  obtain ⟨n, hn⟩ : ∃ n : ℕ, (n : ℤ) = t - e := ⟨(t - e).toNat, by omega⟩
  have hshift : (t - e).toNat = n := by omega
  rw [hshift] at hlow hhigh
  have htarget : t = max ((m.log2 : ℤ) + 1 + e - spec.mantissaBits) spec.minExponent := ht
  have hbits : spec.mantissaBits = spec.mantissaBitsWithoutImplicit + 1 := Nat.add_comm ..
  by_cases hcut : n ≤ m.log2
  · have hlog := log2_div_two_pow hcut hpos
    have hq : 0 < m / 2 ^ n := Nat.div_pos
      ((Nat.pow_le_pow_right (by omega) hcut).trans (Nat.log2_self_le hpos.ne')) (Nat.two_pow_pos n)
    have hup := log2_le_log2_add_one hhigh hq
    have hdown := log2_mono hlow hq
    refine ⟨ht, hfits, ?_, fun _ => ⟨by omega, ?_⟩, fun _ => ?_⟩
    · by_cases hlowest : t = spec.minExponent
      · exact .inr hlowest
      · left
        have hexact : m.log2 - n = spec.mantissaBitsWithoutImplicit := by omega
        calc 2 ^ spec.mantissaBitsWithoutImplicit = 2 ^ (m / 2 ^ n).log2 := by rw [hlog, hexact]
          _ ≤ m / 2 ^ n := Nat.log2_self_le hq.ne'
          _ ≤ r := hlow
    · simp only [totalExponent]
      omega
    · simp only [totalExponent]
      omega
  · -- all bits are cut off, which happens below the lowest exponent only
    have hq : m / 2 ^ n = 0 := Nat.div_eq_of_lt
      (Nat.lt_log2_self.trans_le (Nat.pow_le_pow_right (by omega) (by omega)))
    have hlowest : t = spec.minExponent := by omega
    refine ⟨ht, hfits, .inr hlowest, fun hlt => ?_, fun hr => ?_⟩
    · simp only [totalExponent] at hlt
      omega
    · have hone : r = 1 := by omega
      have hlog : Nat.log2 1 = 0 := by decide
      rw [hone]
      simp only [totalExponent, hlog]
      omega

/-- A number of any exponent is rounded. -/
theorem exists_round (spec : Format) (sign : Sign) {m : ℕ} (hpos : 0 < m) (e : ℤ) :
    ∃ r t, Rounded spec (totalExponent m e) r t ∧
      UnpackedFloat.round spec sign m e = carried spec sign r t := by
  set s := (e - spec.targetExponent (totalExponent m e)).toNat with hs
  have hpos' : 0 < m <<< s := by
    rw [Nat.shiftLeft_eq]
    exact Nat.mul_pos hpos (Nat.two_pow_pos s)
  have htotal : totalExponent (m <<< s) (e - s) = totalExponent m e := by
    rw [totalExponent, totalExponent, log2_shiftLeft hpos]
    push_cast
    omega
  have he : e - s ≤ spec.targetExponent (totalExponent (m <<< s) (e - s)) := by
    rw [htotal]
    omega
  obtain ⟨r, hlow, hhigh, hfits, hround⟩ := exists_roundWithAccuracy spec sign .exact he
  have hrounded := rounded_of_bounds hpos' rfl he hlow hhigh hfits
  rw [htotal] at hrounded hround
  exact ⟨r, _, hrounded, hround⟩

/-- A number as it stands in the format: only at the lowest exponent may the highest bit be missing. -/
def Canonical (spec : Format) : UnpackedFloat → Prop
  | .finite _ m e _ => m < 2 ^ spec.mantissaBits ∧ spec.minExponent ≤ e ∧
      (2 ^ spec.mantissaBitsWithoutImplicit ≤ m ∨ e = spec.minExponent)
  | _ => True

theorem canonical_carried (sign : Sign) {total t : ℤ} {r : ℕ} (h : Rounded spec total r t) :
    Canonical spec (carried spec sign r t) := by
  have hmin : spec.minExponent ≤ t := h.target ▸ le_max_right ..
  have hbits : 2 ^ spec.mantissaBitsWithoutImplicit < 2 ^ spec.mantissaBits :=
    Nat.pow_lt_pow_right (by decide) (by rw [Format.mantissaBits]; omega)
  unfold carried
  split
  · trivial
  · split
    · rename_i hlt
      exact ⟨hlt, hmin, h.full⟩
    · exact ⟨hbits, by omega, .inl le_rfl⟩

/-- A carry moves the mantissa up and leaves the number the same. -/
theorem exists_carried (sign : Sign) {r : ℕ} (t : ℤ) (hpos : 0 < r) (hfits : r ≤ 2 ^ spec.mantissaBits) :
    ∃ m e h, carried spec sign r t = .finite sign m e h ∧ totalExponent m e = totalExponent r t ∧
      e ≤ t + 1 := by
  rw [carried, dif_neg hpos.ne']
  by_cases hlt : r < 2 ^ spec.mantissaBits
  · rw [if_pos hlt]
    exact ⟨r, t, hpos, rfl, rfl, by omega⟩
  · have hr : r = 2 ^ spec.mantissaBits := by omega
    rw [if_neg hlt]
    refine ⟨_, _, _, rfl, ?_, le_rfl⟩
    rw [hr, totalExponent, totalExponent, Nat.log2_two_pow, Nat.log2_two_pow, Format.mantissaBits]
    push_cast
    omega

theorem toNat_implicit_append {width : ℕ} (m : BitVec width) :
    (1#1 ++ m).toNat = 2 ^ width + m.toNat := by
  rw [BitVec.toNat_append, ← Nat.shiftLeft_add_eq_or_of_lt m.isLt]
  simp [Nat.shiftLeft_eq]

/-- What is left of a value that is packed. -/
def repack (spec : Format) (f : UnpackedFloat) : UnpackedFloat := unpack spec (pack spec f)

theorem unpack_packComponents (sign : Sign) (exponent : BitVec spec.exponentBits)
    (mantissa : BitVec spec.mantissaBitsWithoutImplicit) :
    unpack spec (packComponents spec sign exponent mantissa) =
      if exponent = -1#_ then (if mantissa = 0#_ then .infinity sign else .notANumber)
      else if exponent = 0#_ then
        if h : mantissa = 0#_ then .zero sign
        else .finite sign mantissa.toNat
          ((exponent.toNat : ℤ) - (spec.exponentBias + spec.mantissaBitsWithoutImplicit) + 1)
          (by simpa [BitVec.toNat_pos, BitVec.pos_iff_ne_zero])
      else .finite sign (1#1 ++ mantissa).toNat
        ((exponent.toNat : ℤ) - (spec.exponentBias + spec.mantissaBitsWithoutImplicit)) (by simp) := by
  simp only [unpack, unpackExponent_packComponents, unpackMantissa_packComponents,
    unpackSign_packComponents, Sign.ofBitVec_toBitVec]

/-- The exponent field of a number. -/
def biased (spec : Format) (e : ℤ) : ℕ :=
  (e + spec.exponentBias + spec.mantissaBitsWithoutImplicit).toNat

theorem repack_of_overflow {sign : Sign} {m : ℕ} {e : ℤ} (hpos : 0 < m)
    (h : 2 ^ spec.exponentBits ≤ biased spec e + 1) :
    repack spec (.finite sign m e hpos) = .infinity sign := by
  have hpack : pack spec (.finite sign m e hpos) = packedInfinity spec sign := if_pos h
  rw [repack, hpack, packedInfinity, unpack_packComponents, if_pos rfl]
  exact if_pos rfl

theorem ofNat_ne_neg_one {n k : ℕ} (h : n + 1 < 2 ^ k) : BitVec.ofNat k n ≠ -1#k := by
  intro heq
  have hnat := congrArg BitVec.toNat heq
  rw [BitVec.neg_one_eq_allOnes, BitVec.toNat_allOnes, BitVec.toNat_ofNat,
    Nat.mod_eq_of_lt (by omega)] at hnat
  omega

/-- Without overflow a number is packed with its sign, and not as infinity. -/
theorem repack_of_not_overflow (sign : Sign) {m : ℕ} {e : ℤ} (hpos : 0 < m)
    (h : biased spec e + 1 < 2 ^ spec.exponentBits) :
    repack spec (.finite sign m e hpos) = .zero sign ∨
      ∃ m' e' h', repack spec (.finite sign m e hpos) = .finite sign m' e' h' := by
  have hcomponents : ∃ E M, E ≠ -1#_ ∧ pack spec (.finite sign m e hpos) = packComponents spec sign E M := by
    by_cases hnormal : m.log2 + 1 = spec.mantissaBits
    · exact ⟨BitVec.ofNat _ (biased spec e), BitVec.ofNat _ m, ofNat_ne_neg_one h,
        (if_neg (not_le.2 h)).trans (if_pos hnormal)⟩
    · exact ⟨0#_, BitVec.ofNat _ m, ofNat_ne_neg_one (by omega),
        (if_neg (not_le.2 h)).trans (if_neg hnormal)⟩
  obtain ⟨E, M, hE, hpack⟩ := hcomponents
  rw [repack, hpack, unpack_packComponents, if_neg hE]
  split
  · split
    · exact .inl rfl
    · rename_i hne
      exact .inr ⟨_, _, by simpa [BitVec.toNat_pos, BitVec.pos_iff_ne_zero] using hne, rfl⟩
  · exact .inr ⟨_, _, by simp, rfl⟩

/-- A canonical number that does not overflow is packed as it is. -/
theorem repack_of_canonical (hwide : 4 ≤ spec.exponentBits) {sign : Sign} {m : ℕ} {e : ℤ} (hpos : 0 < m)
    (hc : Canonical spec (.finite sign m e hpos)) (h : biased spec e + 1 < 2 ^ spec.exponentBits) :
    repack spec (.finite sign m e hpos) = .finite sign m e hpos := by
  obtain ⟨b, hb, hsize, hbias, hmin, hbits⟩ := format_bounds hwide
  obtain ⟨hm, he, hfull⟩ := hc
  have hfield : (biased spec e : ℤ) = e + (b - 1 : ℕ) + spec.mantissaBitsWithoutImplicit := by
    rw [biased, hbias]
    omega
  rcases Nat.lt_or_ge m (2 ^ spec.mantissaBitsWithoutImplicit) with hlow | hhigh
  · have hlog : m.log2 < spec.mantissaBitsWithoutImplicit := (Nat.log2_lt hpos.ne').2 hlow
    have hpack : pack spec (.finite sign m e hpos) =
        packComponents spec sign 0#_ (BitVec.ofNat _ m) :=
      (if_neg (not_le.2 h)).trans (if_neg (by omega))
    have hnat : (BitVec.ofNat spec.mantissaBitsWithoutImplicit m).toNat = m := by
      rw [BitVec.toNat_ofNat, Nat.mod_eq_of_lt hlow]
    have hne : BitVec.ofNat spec.mantissaBitsWithoutImplicit m ≠ 0#_ := by
      intro hzero
      rw [hzero] at hnat
      exact hpos.ne hnat
    have hlowest : e = spec.minExponent := hfull.resolve_left (by omega)
    have hexponent : ((0#_ : BitVec spec.exponentBits).toNat : ℤ) -
        (spec.exponentBias + spec.mantissaBitsWithoutImplicit) + 1 = e := by
      rw [hlowest, hmin, hbias, BitVec.toNat_ofNat, Nat.zero_mod]
      omega
    rw [repack, hpack, unpack_packComponents, if_neg (ofNat_ne_neg_one (by omega)), if_pos rfl,
      dif_neg hne]
    simp only [hnat, hexponent]
  · have hlog : m.log2 = spec.mantissaBitsWithoutImplicit :=
      (Nat.log2_eq_iff hpos.ne').2 ⟨hhigh, hbits ▸ hm⟩
    have hpack : pack spec (.finite sign m e hpos) =
        packComponents spec sign (BitVec.ofNat _ (biased spec e)) (BitVec.ofNat _ m) :=
      (if_neg (not_le.2 h)).trans (if_pos (by omega))
    have hnat : (BitVec.ofNat spec.exponentBits (biased spec e)).toNat = biased spec e := by
      rw [BitVec.toNat_ofNat, Nat.mod_eq_of_lt (by omega)]
    have hne : BitVec.ofNat spec.exponentBits (biased spec e) ≠ 0#_ := by
      intro hzero
      rw [hzero, BitVec.toNat_ofNat, Nat.zero_mod] at hnat
      omega
    have hmantissa : (1#1 ++ BitVec.ofNat spec.mantissaBitsWithoutImplicit m).toNat = m := by
      have hpow : 2 ^ spec.mantissaBits = 2 * 2 ^ spec.mantissaBitsWithoutImplicit := by
        rw [hbits, Nat.pow_succ']
      rw [toNat_implicit_append, BitVec.toNat_ofNat,
        Nat.mod_eq_sub_mod hhigh, Nat.mod_eq_of_lt (by omega)]
      omega
    have hexponent : (biased spec e : ℤ) - (spec.exponentBias + spec.mantissaBitsWithoutImplicit) = e := by
      rw [hbias, hfield]
      omega
    rw [repack, hpack, unpack_packComponents, if_neg (ofNat_ne_neg_one h), if_neg hne]
    simp only [hnat, hmantissa, hexponent]

theorem canonical_unpack (hwide : 4 ≤ spec.exponentBits) (bits : BitVec spec.numBits) :
    Canonical spec (unpack spec bits) := by
  obtain ⟨b, hb, hsize, hbias, hmin, hbits⟩ := format_bounds hwide
  have hmantissa := (unpackMantissa bits).isLt
  have hpow : 2 ^ spec.mantissaBits = 2 * 2 ^ spec.mantissaBitsWithoutImplicit := by
    rw [hbits, Nat.pow_succ']
  unfold unpack
  dsimp only
  split
  · split <;> trivial
  · split
    · rename_i hzero
      split
      · trivial
      · have hfield : (unpackExponent bits).toNat = 0 := by
          rw [hzero, BitVec.toNat_ofNat, Nat.zero_mod]
        refine ⟨by omega, ?_, .inr ?_⟩ <;> rw [hfield, hmin, hbias] <;> omega
    · rename_i hzero
      have hfield : (unpackExponent bits).toNat ≠ 0 := fun h => hzero (BitVec.eq_of_toNat_eq (by
        rw [h, BitVec.toNat_ofNat, Nat.zero_mod]))
      refine ⟨?_, ?_, .inl ?_⟩
      · rw [toNat_implicit_append]
        omega
      · rw [hmin, hbias]
        omega
      · rw [toNat_implicit_append]
        omega

end SequenceClassification.Score
