import SequenceClassification.Proofs.Score.Comparing
import SequenceClassification.Proofs.Score.Rounding

/-!
The ranges of results. A value is on a side of zero, reaches one, or is below four. Main statements: sums of
what is not negative reach one as soon as a summand does, the difference of a number and one that is at least
as large is not positive, and what is below four divided by what reaches one is finite.
-/
namespace SequenceClassification.Score

open Float.Model (Format UnpackedFloat totalExponent)
open Float.Model.UnpackedFloat

/-- The value is a number that is zero or has the sign. -/
def OnSide (side : Sign) : UnpackedFloat → Prop
  | .notANumber => False
  | .zero _ => True
  | .infinity sign | .finite sign _ _ _ => sign = side

def ReachesOne : UnpackedFloat → Prop
  | .infinity sign => sign = .positive
  | .finite sign m e _ => sign = .positive ∧ 1 ≤ totalExponent m e
  | _ => False

def BelowFour : UnpackedFloat → Prop
  | .zero _ => True
  | .finite sign m e _ => sign = .positive ∧ totalExponent m e ≤ 2
  | _ => False

theorem ReachesOne.onSide {f : UnpackedFloat} (h : ReachesOne f) : OnSide .positive f := by
  cases f with
  | notANumber | zero _ => exact h.elim
  | infinity _ => exact h
  | finite _ _ _ _ => exact h.1

theorem BelowFour.onSide {f : UnpackedFloat} (h : BelowFour f) : OnSide .positive f := by
  cases f with
  | notANumber | infinity _ => exact h.elim
  | zero _ => trivial
  | finite _ _ _ _ => exact h.1

theorem OnSide.isNaN {side : Sign} {f : UnpackedFloat} (h : OnSide side f) : f.isNaN = false := by
  cases f with
  | notANumber => exact h.elim
  | zero _ | infinity _ | finite _ _ _ _ => rfl

/-! ### Packing -/

variable {spec : Format}

theorem repack_zero (hwide : 4 ≤ spec.exponentBits) (sign : Sign) :
    repack spec (.zero sign) = .zero sign := by
  have hpow : 2 ^ 1 < 2 ^ spec.exponentBits := Nat.pow_lt_pow_right (by decide) (by omega)
  have hpack : pack spec (.zero sign) = packComponents spec sign 0#_ 0#_ := rfl
  rw [repack, hpack, unpack_packComponents, if_neg (ofNat_ne_neg_one (by omega)), if_pos rfl, dif_pos rfl]

theorem repack_infinity (sign : Sign) : repack spec (.infinity sign) = .infinity sign := by
  have hpack : pack spec (.infinity sign) = packComponents spec sign (-1#_) 0#_ := rfl
  rw [repack, hpack, unpack_packComponents, if_pos rfl, if_pos rfl]

section
variable {side : Sign} {m : ℕ} {e : ℤ}

theorem onSide_repack_finite (hpos : 0 < m) : OnSide side (repack spec (.finite side m e hpos)) := by
  rcases Nat.lt_or_ge (biased spec e + 1) (2 ^ spec.exponentBits) with hlow | hover
  · rcases repack_of_not_overflow side hpos hlow with h | ⟨m', e', h', h⟩
    all_goals
      rw [h]
      trivial
  · rw [repack_of_overflow hpos hover]
    rfl

/-- A number stays on its side of zero when it is packed. -/
theorem onSide_repack (hwide : 4 ≤ spec.exponentBits) {f : UnpackedFloat} (h : OnSide side f) :
    OnSide side (repack spec f) := by
  cases f with
  | notANumber => exact h.elim
  | zero _ =>
    rw [repack_zero hwide]
    trivial
  | infinity _ =>
    rw [repack_infinity]
    exact h
  | finite sign m e hpos =>
    obtain rfl : sign = side := h
    exact onSide_repack_finite hpos

theorem reachesOne_repack (hwide : 4 ≤ spec.exponentBits) {f : UnpackedFloat}
    (hc : Canonical spec f) (h : ReachesOne f) : ReachesOne (repack spec f) := by
  cases f with
  | notANumber | zero _ => exact h.elim
  | infinity sign =>
    rw [repack_infinity]
    exact h
  | finite sign m e hpos =>
    rcases Nat.lt_or_ge (biased spec e + 1) (2 ^ spec.exponentBits) with hlow | hover
    · rw [repack_of_canonical hwide hpos hc hlow]
      exact h
    · rw [repack_of_overflow hpos hover]
      exact h.1

/-! ### Rounding -/

theorem onSide_carried {r : ℕ} {t : ℤ} (hfits : r ≤ 2 ^ spec.mantissaBits) :
    OnSide side (carried spec side r t) := by
  by_cases hr : r = 0
  · rw [carried, dif_pos hr]
    trivial
  · obtain ⟨m', e', hpos', hcarried, -⟩ := exists_carried side t
      (Nat.pos_of_ne_zero hr) hfits
    rw [hcarried]
    rfl

/-- A number stays on its side of zero when it is rounded. -/
theorem onSide_round (hwide : 4 ≤ spec.exponentBits) (hpos : 0 < m) (e : ℤ) :
    OnSide side (repack spec (.round spec side m e)) := by
  obtain ⟨r, t, hrounded, hround⟩ := exists_round spec side hpos e
  rw [hround]
  exact onSide_repack hwide (onSide_carried hrounded.fits)

theorem reachesOne_round (hwide : 4 ≤ spec.exponentBits) (hpos : 0 < m)
    (h : 1 ≤ totalExponent m e) : ReachesOne (repack spec (.round spec .positive m e)) := by
  obtain ⟨b, hb, -, -, hmin, -⟩ := format_bounds hwide
  obtain ⟨r, t, hrounded, hround⟩ := exists_round spec .positive hpos e
  obtain ⟨hr, hlower⟩ := hrounded.lower (by omega)
  obtain ⟨m', e', hpos', hcarried, htotal, -⟩ := exists_carried .positive t hr hrounded.fits
  have hreaches : ReachesOne (carried spec .positive r t) := by
    rw [hcarried]
    exact ⟨rfl, by omega⟩
  rw [hround]
  exact reachesOne_repack hwide (canonical_carried .positive hrounded) hreaches

theorem belowFour_round (hwide : 4 ≤ spec.exponentBits) (hpos : 0 < m)
    (h : totalExponent m e ≤ 1) : BelowFour (repack spec (.round spec .positive m e)) := by
  obtain ⟨b, hb, hsize, hbias, hmin, hbits⟩ := format_bounds hwide
  obtain ⟨r, t, hrounded, hround⟩ := exists_round spec .positive hpos e
  have htarget : t = max (totalExponent m e - spec.mantissaBits) spec.minExponent := hrounded.target
  rw [hround]
  by_cases hr : r = 0
  · rw [carried, dif_pos hr, repack_zero hwide]
    trivial
  · have hupper := hrounded.upper (Nat.pos_of_ne_zero hr)
    have hcanonical := canonical_carried .positive hrounded
    obtain ⟨m', e', hpos', hcarried, htotal, hexponent⟩ := exists_carried .positive t
      (Nat.pos_of_ne_zero hr) hrounded.fits
    rw [hcarried] at hcanonical ⊢
    have hlow : biased spec e' + 1 < 2 ^ spec.exponentBits := by
      rw [biased, hbias]
      omega
    rw [repack_of_canonical hwide hpos' hcanonical hlow]
    exact ⟨rfl, by omega⟩

end

/-! ### Sums -/

/-- The mantissa at a lower exponent. -/
theorem totalExponent_decreaseExponent {m : ℕ} (hpos : 0 < m) {e e' : ℤ} (h : e' ≤ e) :
    totalExponent (decreaseExponent m e e').1 e' = totalExponent m e ∧ 0 < (decreaseExponent m e e').1 := by
  have hmantissa : (decreaseExponent m e e').1 = m <<< (e - e').toNat := rfl
  refine ⟨?_, ?_⟩
  · rw [hmantissa, totalExponent, totalExponent, log2_shiftLeft hpos]
    push_cast
    omega
  · rw [hmantissa, Nat.shiftLeft_eq]
    exact Nat.mul_pos hpos (Nat.two_pow_pos _)

theorem normalize_positive {m : ℕ} (hpos : 0 < m) (e : ℤ) (zeroSign : Sign) :
    UnpackedFloat.normalize spec m e zeroSign = UnpackedFloat.round spec .positive m e := by
  have hcompare : compare (m : ℤ) 0 = .gt := compare_gt_iff_gt.2 (by omega)
  simp only [UnpackedFloat.normalize, hcompare, Int.toNat_natCast]

section
variable {a b : UnpackedFloat}

/-- A sum of positive numbers has at least the total exponent of each of them. -/
theorem exists_add (spec : Format) {m m' : ℕ} (hpos : 0 < m) (hpos' : 0 < m') (e e' : ℤ) :
    ∃ sum exponent, 0 < sum ∧
      add spec (.finite .positive m e hpos) (.finite .positive m' e' hpos') =
        UnpackedFloat.round spec .positive sum exponent ∧
      totalExponent m e ≤ totalExponent sum exponent ∧
      totalExponent m' e' ≤ totalExponent sum exponent := by
  set low := min e e' with hlow
  obtain ⟨htotal, hsmall⟩ := totalExponent_decreaseExponent hpos (show low ≤ e from min_le_left ..)
  obtain ⟨htotal', hsmall'⟩ := totalExponent_decreaseExponent hpos' (show low ≤ e' from min_le_right ..)
  set k := (decreaseExponent m e low).1 with hk
  set k' := (decreaseExponent m' e' low).1 with hk'
  have hlog : k.log2 ≤ (k + k').log2 := log2_mono (Nat.le_add_right ..) hsmall
  have hlog' : k'.log2 ≤ (k + k').log2 := log2_mono (Nat.le_add_left ..) hsmall'
  refine ⟨k + k', low, Nat.add_pos_left hsmall k',
    normalize_positive (Nat.add_pos_left hsmall k') low .positive, ?_, ?_⟩
  · rw [← htotal, totalExponent, totalExponent]
    omega
  · rw [← htotal', totalExponent, totalExponent]
    omega

theorem onSide_add (hwide : 4 ≤ spec.exponentBits) (ha : OnSide .positive a) (hb : OnSide .positive b) :
    OnSide .positive (repack spec (add spec a b)) := by
  cases a with
  | notANumber => exact ha.elim
  | infinity s =>
    obtain rfl : s = .positive := ha
    cases b with
    | notANumber => exact hb.elim
    | infinity t =>
      obtain rfl : t = .positive := hb
      exact onSide_repack hwide rfl
    | zero _ | finite _ _ _ _ => exact onSide_repack hwide rfl
  | zero s =>
    cases b with
    | notANumber => exact hb.elim
    | infinity _ | finite _ _ _ _ => exact onSide_repack hwide hb
    | zero t =>
      refine onSide_repack hwide ?_
      cases s <;> cases t <;> trivial
  | finite s m e hpos =>
    obtain rfl : s = .positive := ha
    cases b with
    | notANumber => exact hb.elim
    | infinity _ => exact onSide_repack hwide hb
    | zero _ => exact onSide_repack_finite hpos
    | finite t m' e' hpos' =>
      obtain rfl : t = .positive := hb
      obtain ⟨sum, exponent, hsum, hadd, -⟩ := exists_add spec hpos hpos' e e'
      rw [hadd]
      exact onSide_round hwide hsum exponent

/-- A sum reaches one as soon as a summand does, if none is negative. -/
theorem reachesOne_add (hwide : 4 ≤ spec.exponentBits) (hca : Canonical spec a) (hcb : Canonical spec b)
    (ha : OnSide .positive a) (hb : OnSide .positive b) (h : ReachesOne a ∨ ReachesOne b) :
    ReachesOne (repack spec (add spec a b)) := by
  cases a with
  | notANumber => exact ha.elim
  | infinity s =>
    obtain rfl : s = .positive := ha
    cases b with
    | notANumber => exact hb.elim
    | infinity t =>
      obtain rfl : t = .positive := hb
      exact reachesOne_repack hwide trivial rfl
    | zero _ | finite _ _ _ _ => exact reachesOne_repack hwide trivial rfl
  | zero s =>
    have hreaches : ReachesOne b := h.resolve_left id
    cases b with
    | notANumber | zero _ => exact hreaches.elim
    | infinity _ | finite _ _ _ _ => exact reachesOne_repack hwide hcb hreaches
  | finite s m e hpos =>
    obtain rfl : s = .positive := ha
    cases b with
    | notANumber => exact hb.elim
    | infinity _ => exact reachesOne_repack hwide trivial hb
    | zero _ => exact reachesOne_repack hwide hca (h.resolve_right id)
    | finite t m' e' hpos' =>
      obtain rfl : t = .positive := hb
      obtain ⟨sum, exponent, hsum, hadd, hleft, hright⟩ :=
        exists_add spec hpos hpos' e e'
      have htotal : 1 ≤ totalExponent sum exponent :=
        h.elim (fun h => h.2.trans hleft) (fun h => h.2.trans hright)
      rw [hadd]
      exact reachesOne_round hwide hsum htotal

/-! ### Differences -/

theorem onSide_normalize (hwide : 4 ≤ spec.exponentBits) {n : ℤ} (h : n ≤ 0) (e : ℤ) (zeroSign : Sign) :
    OnSide .negative (repack spec (UnpackedFloat.normalize spec n e zeroSign)) := by
  rcases h.lt_or_eq with hlt | rfl
  · have hcompare : compare n 0 = .lt := compare_lt_iff_lt.2 hlt
    simp only [UnpackedFloat.normalize, hcompare]
    exact onSide_round hwide (by omega) e
  · exact onSide_repack hwide trivial

/-- Of two canonical sizes the one with the smaller exponent is the smaller one. -/
theorem size_le {s s' : Sign} {m m' : ℕ} {e e' : ℤ} {hpos : 0 < m} {hpos' : 0 < m'}
    (hc : Canonical spec (.finite s m e hpos)) (hc' : Canonical spec (.finite s' m' e' hpos'))
    (h : e < e' ∨ e = e' ∧ m ≤ m') :
    (decreaseExponent m e (min e e')).1 ≤ (decreaseExponent m' e' (min e e')).1 := by
  change m <<< (e - min e e').toNat ≤ m' <<< (e' - min e e').toNat
  rcases h with hlt | ⟨rfl, hle⟩
  · -- above the lowest exponent the highest bit is there
    obtain ⟨hm, hlow, -⟩ := hc
    have hfull : 2 ^ spec.mantissaBitsWithoutImplicit ≤ m' := hc'.2.2.resolve_right (by omega)
    have hshift : (e - min e e').toNat = 0 := by omega
    obtain ⟨k, hk⟩ : ∃ k, (e' - min e e').toNat = k + 1 := ⟨(e' - min e e').toNat - 1, by omega⟩
    rw [hshift, hk, Nat.shiftLeft_zero, Nat.shiftLeft_eq, Nat.pow_succ']
    calc m ≤ 2 ^ spec.mantissaBits := hm.le
      _ = 2 ^ spec.mantissaBitsWithoutImplicit * 2 := by rw [Format.mantissaBits, Nat.add_comm, Nat.pow_succ]
      _ ≤ m' * 2 := Nat.mul_le_mul_right 2 hfull
      _ ≤ m' * (2 * 2 ^ k) := Nat.mul_le_mul_left m' (Nat.le_mul_of_pos_right 2 (Nat.two_pow_pos k))
  · rw [Nat.shiftLeft_eq, Nat.shiftLeft_eq]
    exact Nat.mul_le_mul_right _ hle

/-- A finite number less one that is at least as large is not positive. -/
theorem onSide_sub (hwide : 4 ≤ spec.exponentBits) (hca : Canonical spec a) (hcb : Canonical spec b)
    (ha : a.isFinite = true) (hb : b.isFinite = true) (h : place a ≤ place b) :
    OnSide .negative (repack spec (sub spec a b)) := by
  cases a with
  | notANumber | infinity _ => cases ha
  | zero s =>
    cases b with
    | notANumber | infinity _ => cases hb
    | zero t =>
      refine onSide_repack hwide ?_
      cases s <;> cases t <;> trivial
    | finite t m' e' hpos' =>
      cases t with
      | positive => exact onSide_repack_finite hpos'
      | negative =>
        revert h
        simp [place, Prod.Lex.toLex_le_toLex]
  | finite s m e hpos =>
    cases b with
    | notANumber | infinity _ => cases hb
    | zero _ =>
      cases s with
      | negative => exact onSide_repack_finite hpos
      | positive =>
        revert h
        simp [place, Prod.Lex.toLex_le_toLex]
    | finite t m' e' hpos' =>
      refine onSide_normalize hwide ?_ (min e e') .positive
      change s.apply (decreaseExponent m e (min e e')).1 - t.apply (decreaseExponent m' e' (min e e')).1 ≤ 0
      cases s <;> cases t
      case negative.negative =>
        have hsize := size_le hcb hca (place_negative_le_iff.1 h)
        rw [min_comm] at hsize
        simp only [Sign.apply]
        omega
      case negative.positive =>
        simp only [Sign.apply]
        omega
      case positive.negative =>
        revert h
        simp [place, Prod.Lex.toLex_le_toLex]
      case positive.positive =>
        have hsize := size_le hca hcb (place_positive_le_iff.1 h)
        simp only [Sign.apply]
        omega

theorem sub_self_of_isFinite (ha : a.isFinite = true) : sub spec a a = .zero .positive := by
  cases a with
  | notANumber | infinity _ => cases ha
  | zero s => cases s <;> rfl
  | finite s m e hpos =>
    have hzero : ∀ n : ℤ, UnpackedFloat.normalize spec (n - n) (min e e) .positive = .zero .positive := by
      intro n
      rw [sub_self]
      rfl
    exact hzero _

/-! ### Quotients -/

theorem log2_div_bounds {m d : ℕ} (hd : 0 < d) (hle : d ≤ m) :
    m.log2 ≤ (m / d).log2 + 1 + d.log2 ∧ (m / d).log2 + d.log2 ≤ m.log2 := by
  have hq : 0 < m / d := Nat.div_pos hle hd
  constructor
  · have hlt : m < 2 ^ ((m / d).log2 + 1 + d.log2 + 1) := by
      calc m < d * (m / d + 1) := Nat.lt_mul_div_succ m hd
        _ ≤ 2 ^ (d.log2 + 1) * 2 ^ ((m / d).log2 + 1) :=
          Nat.mul_le_mul Nat.lt_log2_self.le Nat.lt_log2_self
        _ = 2 ^ ((m / d).log2 + 1 + d.log2 + 1) := by
          rw [← Nat.pow_add]
          congr 1
          omega
    exact Nat.lt_succ_iff.1 ((Nat.log2_lt (by omega)).2 hlt)
  · refine (Nat.le_log2 (by omega)).2 ?_
    calc 2 ^ ((m / d).log2 + d.log2) = 2 ^ (m / d).log2 * 2 ^ d.log2 := Nat.pow_add ..
      _ ≤ m / d * d := Nat.mul_le_mul (Nat.log2_self_le hq.ne') (Nat.log2_self_le hd.ne')
      _ ≤ m := Nat.div_mul_le_self m d

/-- A number whose exponent is not too high is packed as a finite one. -/
theorem isFinite_repack_carried (hwide : 4 ≤ spec.exponentBits) {sign : Sign} {r : ℕ} {t : ℤ}
    (hfits : r ≤ 2 ^ spec.mantissaBits) (ht : t ≤ max (2 - (spec.mantissaBits : ℤ)) spec.minExponent) :
    (repack spec (carried spec sign r t)).isFinite = true := by
  obtain ⟨b, hb, hsize, hbias, hmin, hbits⟩ := format_bounds hwide
  by_cases hr : r = 0
  · rw [carried, dif_pos hr, repack_zero hwide]
    rfl
  · obtain ⟨m', e', hpos', hcarried, -, hexponent⟩ := exists_carried sign t
      (Nat.pos_of_ne_zero hr) hfits
    have hlow : biased spec e' + 1 < 2 ^ spec.exponentBits := by
      rw [biased, hbias]
      omega
    rw [hcarried]
    rcases repack_of_not_overflow sign hpos' hlow with h | ⟨m'', e'', h'', h⟩
    all_goals
      rw [h]
      rfl

/-- What is below four divided by what reaches one is finite. -/
theorem isFinite_div (hwide : 4 ≤ spec.exponentBits) (ha : BelowFour a) (hb : ReachesOne b) :
    (repack spec (div spec a b)).isFinite = true := by
  cases a with
  | notANumber | infinity _ => exact ha.elim
  | zero s =>
    cases b with
    | notANumber | zero _ => exact hb.elim
    | infinity t | finite t _ _ _ =>
      change (repack spec (.zero (s / t))).isFinite = true
      rw [repack_zero hwide]
      rfl
  | finite s m e hpos =>
    cases b with
    | notANumber | zero _ => exact hb.elim
    | infinity t =>
      change (repack spec (.zero (s / t))).isFinite = true
      rw [repack_zero hwide]
      rfl
    | finite t d f hd =>
      obtain ⟨-, hbelow⟩ := ha
      obtain ⟨-, hreaches⟩ := hb
      set low := min (e - f) (spec.targetExponent (totalExponent m e - totalExponent d f)) with hlow
      set q := (m <<< (e - f - low).toNat) / d with hq
      have hshift : (m <<< (e - f - low).toNat).log2 = m.log2 + (e - f - low).toNat := log2_shiftLeft hpos _
      have htarget : low ≤ max (totalExponent m e - totalExponent d f - spec.mantissaBits) spec.minExponent :=
        min_le_right ..
      have hle : low ≤ e - f := min_le_left ..
      -- the quotient has one bit more or none than the difference of the total exponents tells
      have hquotient : low ≤ spec.targetExponent (totalExponent q low) ∧
          spec.targetExponent (totalExponent q low) ≤ max (2 - (spec.mantissaBits : ℤ)) spec.minExponent := by
        have hbits : spec.mantissaBits = spec.mantissaBitsWithoutImplicit + 1 := Nat.add_comm ..
        simp only [totalExponent] at hbelow hreaches htarget
        simp only [Format.targetExponent, totalExponent]
        rcases Nat.lt_or_ge (m <<< (e - f - low).toNat) d with hsmall | hlarge
        · have hzero : q.log2 = 0 := by rw [hq, Nat.div_eq_of_lt hsmall, Nat.log2_zero]
          have hmono : (m <<< (e - f - low).toNat).log2 ≤ d.log2 :=
            log2_mono hsmall.le (totalExponent_decreaseExponent hpos (e := e - f) hle).2
          omega
        · obtain ⟨hup, hdown⟩ := log2_div_bounds hd hlarge
          rw [← hq] at hup hdown
          omega
      obtain ⟨r, -, -, hfits, hround⟩ := exists_roundWithAccuracy spec (s / t)
        (accuracyOfFraction ((m <<< (e - f - low).toNat) % d) d) hquotient.1
      have hdiv : div spec (.finite s m e hpos) (.finite t d f hd) =
          carried spec (s / t) r (spec.targetExponent (totalExponent q low)) := hround
      rw [hdiv]
      exact isFinite_repack_carried hwide hfits hquotient.2

end

end SequenceClassification.Score
