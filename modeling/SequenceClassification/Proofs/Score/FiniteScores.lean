import SequenceClassification.Proofs.Score.Ranges
import SequenceClassification.Proofs.Score.Widening

/-!
Scores are finite. The exponential of what is not positive stays below four, that of zero reaches one, and
so a sum of exponentials over a row reaches one; what is below four divided by what reaches one is finite.
Main statements: the probabilities of finite logits are finite, and so is the sigmoid of every number.
-/
namespace SequenceClassification.Score

open Float.Model (Format UnpackedFloat totalExponent)
open Float.Model.UnpackedFloat

/-! ### The series of the exponential -/

theorem unit_eq : unit = 2 ^ 128 := Nat.one_shiftLeft places

theorem unit_pos : 0 < unit := unit_eq ▸ Nat.two_pow_pos 128

theorem log2_unit : unit.log2 = 128 := unit_eq ▸ Nat.log2_two_pow

theorem unit_le_series (x i n : ℕ) : unit ≤ series x i n := by
  cases n with
  | zero => exact le_rfl
  | succ n => exact Nat.le_add_right ..

theorem series_zero (i n : ℕ) : series 0 i n = unit := by
  cases n with
  | zero => rfl
  | succ n => rw [series, Nat.zero_mul, Nat.zero_div, Nat.add_zero]

/-- Below one the later terms together add no more than the first. -/
theorem series_le {x i : ℕ} (hx : x ≤ unit) (hi : 2 ≤ i) (n : ℕ) : series x i n ≤ 2 * unit := by
  have hunit := unit_pos
  induction n generalizing i with
  | zero =>
    rw [series]
    omega
  | succ n ih =>
    have hrest : x * series x (i + 1) n / (i * unit) ≤ unit := by
      refine Nat.div_le_of_le_mul ?_
      calc x * series x (i + 1) n ≤ unit * (2 * unit) := Nat.mul_le_mul hx (ih (by omega))
        _ = 2 * unit * unit := by rw [Nat.mul_comm]
        _ ≤ i * unit * unit := Nat.mul_le_mul_right _ (Nat.mul_le_mul_right _ hi)
    rw [series]
    omega

theorem series_one_le {x : ℕ} (hx : x ≤ unit) (n : ℕ) : series x 1 n ≤ 3 * unit := by
  have hunit := unit_pos
  cases n with
  | zero =>
    rw [series]
    omega
  | succ n =>
    have hrest : x * series x (1 + 1) n / (1 * unit) ≤ 2 * unit := by
      refine Nat.div_le_of_le_mul ?_
      rw [Nat.one_mul]
      exact Nat.mul_le_mul hx (series_le hx le_rfl n)
    rw [series]
    omega

/-! ### The exponential -/

variable {spec : Format}

theorem series_pos (x i n : ℕ) : 0 < series x i n := unit_pos.trans_le (unit_le_series x i n)

theorem reachesOne_expUnpacked (hwide : 4 ≤ spec.exponentBits) {x : UnpackedFloat} {sign : Sign}
    (hx : x = .zero sign) : ReachesOne (repack spec (expUnpacked spec x)) := by
  have hzero : expUnpacked spec (.zero sign) = expScaled spec 0 := rfl
  rw [hx, hzero]
  refine reachesOne_round hwide (series_pos ..) ?_
  rw [Int.zero_emod, Int.zero_ediv, Int.toNat_zero, series_zero, totalExponent, log2_unit]
  decide

/-- The exponential of a number that is not positive is one at most, and rounding keeps it below four. -/
theorem belowFour_expScaled (hwide : 4 ≤ spec.exponentBits) {x : ℤ} (hx : x ≤ 0) :
    BelowFour (repack spec (expScaled spec x)) := by
  refine belowFour_round hwide (series_pos ..) ?_
  rcases hx.lt_or_eq with hlt | rfl
  · have hlog : (0 : ℤ) < logTwo := by decide
    have hquotient : x / logTwo < 0 := Int.ediv_neg_of_neg_of_pos hlt hlog
    have hrest : (x % logTwo).toNat ≤ unit := by
      have hlt := Int.emod_lt_of_pos x hlog
      have hle : (logTwo : ℤ) ≤ unit := by decide
      omega
    have hseries : (series (x % logTwo).toNat 1 seriesTerms).log2 < 130 := by
      refine (Nat.log2_lt (series_pos ..).ne').2 ?_
      calc series (x % logTwo).toNat 1 seriesTerms ≤ 3 * unit := series_one_le hrest _
        _ < 2 ^ 130 := by decide
    have hplaces : places = 128 := rfl
    simp only [totalExponent, hplaces]
    omega
  · rw [Int.zero_emod, Int.zero_ediv, Int.toNat_zero, series_zero, totalExponent, log2_unit]
    decide

theorem onSide_expUnpacked (hwide : 4 ≤ spec.exponentBits) {x : UnpackedFloat} (hx : x.isNaN = false) :
    OnSide .positive (repack spec (expUnpacked spec x)) := by
  have hscaled : ∀ y, OnSide .positive (repack spec (expScaled spec y)) := fun y =>
    onSide_round hwide (series_pos ..) _
  cases x with
  | notANumber => cases hx
  | infinity sign =>
    refine onSide_repack hwide ?_
    cases sign <;> trivial
  | zero _ => exact hscaled 0
  | finite sign m e _ =>
    simp only [expUnpacked]
    split
    · refine onSide_repack hwide ?_
      cases sign <;> trivial
    · exact hscaled _

theorem belowFour_expUnpacked (hwide : 4 ≤ spec.exponentBits) {x : UnpackedFloat} (hx : OnSide .negative x) :
    BelowFour (repack spec (expUnpacked spec x)) := by
  have hzero : BelowFour (repack spec (.zero .positive)) := by
    rw [repack_zero hwide]
    trivial
  cases x with
  | notANumber => exact hx.elim
  | infinity sign =>
    obtain rfl : sign = .negative := hx
    exact hzero
  | zero _ => exact belowFour_expScaled hwide le_rfl
  | finite sign m e _ =>
    obtain rfl : sign = .negative := hx
    simp only [expUnpacked]
    split
    · exact hzero
    · refine belowFour_expScaled hwide ?_
      rw [Sign.apply]
      omega

/-! ### The sigmoid -/

theorem unpack_one64 : (1 : Float).toModel.unpack = repack .binary64 (.round .binary64 .positive 1 0) := by
  change repack .binary64 (UnpackedFloat.normalize .binary64 ((1 : ℕ) : ℤ) 0 .positive) = _
  rw [normalize_positive (by decide)]

theorem totalExponent_one : totalExponent 1 0 = 1 := by
  have hlog : Nat.log2 1 = 0 := Nat.log2_two_pow (n := 0)
  rw [totalExponent, hlog]
  rfl

theorem reachesOne_one64 : ReachesOne (1 : Float).toModel.unpack :=
  unpack_one64 ▸ reachesOne_round (by decide) (by decide) totalExponent_one.ge

theorem belowFour_one64 : BelowFour (1 : Float).toModel.unpack :=
  unpack_one64 ▸ belowFour_round (by decide) (by decide) totalExponent_one.le

/-- What is a number stays one when its sign is changed. -/
theorem isNaN_neg64 {x : Float} (hx : x.isNaN = false) : (-x).isNaN = false := by
  have hwide : 4 ≤ Format.binary64.exponentBits := by decide
  have hnumber : x.toModel.unpack.isNaN = false := hx
  have hside : ∃ side, OnSide side (neg x.toModel.unpack) := by
    cases h : x.toModel.unpack with
    | notANumber =>
      rw [h] at hnumber
      cases hnumber
    | zero sign | infinity sign | finite sign _ _ _ => exact ⟨-sign, by trivial⟩
  obtain ⟨side, hside⟩ := hside
  exact (onSide_repack hwide hside).isNaN

/-- The sigmoid of every number is finite. -/
theorem isFinite_sigmoid64 {x : Float} (hx : x.isNaN = false) : (sigmoid64 x).isFinite = true := by
  have hwide : 4 ≤ Format.binary64.exponentBits := by decide
  have hpower : OnSide .positive (exp64 (-x)).toModel.unpack := onSide_expUnpacked hwide (isNaN_neg64 hx)
  have hsum : ReachesOne (1 + exp64 (-x)).toModel.unpack :=
    reachesOne_add hwide (canonical_unpack hwide _) (canonical_unpack hwide _) reachesOne_one64.onSide hpower
      (.inl reachesOne_one64)
  exact isFinite_div hwide belowFour_one64 hsum

/-! ### The probabilities of a row -/

/-- The better of two logits, as the largest one is looked for. -/
theorem place32_le_step {m x : Float32} (hm : m.isFinite = true) (hx : x.isFinite = true) :
    place32 m ≤ place32 (if m < x || x.isNaN then x else m) ∧
      place32 x ≤ place32 (if m < x || x.isNaN then x else m) := by
  have hnumber : x.isNaN = false := isNaN_of_isFinite hx
  have hlt : m < x ↔ place32 m < place32 x := lt32_iff_place (isNaN_of_isFinite hm) hnumber
  by_cases h : m < x
  · have htrue : (m < x || x.isNaN) = true := by simp [h]
    rw [if_pos htrue]
    exact ⟨(hlt.1 h).le, le_rfl⟩
  · have hfalse : ¬ (m < x || x.isNaN) = true := by
      rw [hnumber, Bool.or_false, decide_eq_true_iff]
      exact h
    rw [if_neg hfalse]
    exact ⟨le_rfl, not_lt.1 fun hplace => h (hlt.2 hplace)⟩

/-- The largest logit is one of the row, and no other stands beyond it. -/
theorem top_spec {m : Float32} {row : List Float32} (hm : m.isFinite = true)
    (hrow : ∀ x ∈ row, x.isFinite = true) :
    let top := row.foldl (fun m x => if m < x || x.isNaN then x else m) m
    top ∈ m :: row ∧ ∀ x ∈ m :: row, place32 x ≤ place32 top := by
  induction row generalizing m with
  | nil => simp
  | cons y rest ih =>
    have hy : y.isFinite = true := hrow y (List.mem_cons_self ..)
    obtain ⟨hleft, hright⟩ := place32_le_step hm hy
    have hstep : (if m < y || y.isNaN then y else m) = y ∨ (if m < y || y.isNaN then y else m) = m :=
      ite_eq_or_eq ..
    set best := if m < y || y.isNaN then y else m with hbest
    have hfinite : best.isFinite = true := by
      rcases hstep with h | h
      · rwa [h]
      · rwa [h]
    obtain ⟨hmem, htop⟩ := ih hfinite (fun x hx => hrow x (List.mem_cons_of_mem _ hx))
    dsimp only
    rw [List.foldl_cons, ← hbest]
    have hbelow : place32 best ≤ place32 (rest.foldl (fun m x => if m < x || x.isNaN then x else m) best) :=
      htop best (List.mem_cons_self ..)
    refine ⟨?_, fun x hx => ?_⟩
    · rcases List.mem_cons.1 hmem with h | h
      · rw [h]
        rcases hstep with h | h
        · rw [h]
          exact List.mem_cons_of_mem _ (List.mem_cons_self ..)
        · rw [h]
          exact List.mem_cons_self ..
      · exact List.mem_cons_of_mem _ (List.mem_cons_of_mem _ h)
    · rcases List.mem_cons.1 hx with rfl | hx
      · exact hleft.trans hbelow
      · rcases List.mem_cons.1 hx with rfl | hx
        · exact hright.trans hbelow
        · exact htop x (List.mem_cons_of_mem _ hx)

/-- Added up from a number that is not negative, numbers that are not negative reach one as soon as one
does. -/
theorem reachesOne_total {powers : List Float32} {start : Float32}
    (hstart : OnSide .positive start.toModel.unpack)
    (hpowers : ∀ p ∈ powers, OnSide .positive p.toModel.unpack)
    (h : ReachesOne start.toModel.unpack ∨ ∃ p ∈ powers, ReachesOne p.toModel.unpack) :
    ReachesOne (powers.foldl (· + ·) start).toModel.unpack := by
  have hwide : 4 ≤ Format.binary32.exponentBits := by decide
  induction powers generalizing start with
  | nil => simpa using h
  | cons p rest ih =>
    have hp := hpowers p (List.mem_cons_self ..)
    have hsum : OnSide .positive (start + p).toModel.unpack := onSide_add hwide hstart hp
    have hreaches : ReachesOne start.toModel.unpack ∨ ReachesOne p.toModel.unpack →
        ReachesOne (start + p).toModel.unpack :=
      reachesOne_add hwide (canonical_unpack hwide _) (canonical_unpack hwide _) hstart hp
    refine ih hsum (fun q hq => hpowers q (List.mem_cons_of_mem _ hq)) ?_
    rcases h with h | ⟨q, hq, h⟩
    · exact .inl (hreaches (.inl h))
    · rcases List.mem_cons.1 hq with rfl | hq
      · exact .inl (hreaches (.inr h))
      · exact .inr ⟨q, hq, h⟩

/-- The probabilities of finite logits are finite. -/
theorem isFinite_softmax32 {row : List Float32} (hrow : ∀ x ∈ row, x.isFinite = true) :
    ∀ p ∈ softmax32 row, p.isFinite = true := by
  have hwide : 4 ≤ Format.binary32.exponentBits := by decide
  cases row with
  | nil => simp [softmax32]
  | cons first rest =>
    obtain ⟨hmem, htop⟩ := top_spec (hrow first (List.mem_cons_self ..)) hrow
    rw [softmax32, List.headD_cons]
    set top := (first :: rest).foldl (fun m x => if m < x || x.isNaN then x else m) first with htopeq
    have hmem' : top ∈ first :: rest := by simpa using hmem
    have hfinite : top.isFinite = true := hrow top hmem'
    have hpower : ∀ x ∈ first :: rest, BelowFour (exp32 (x - top)).toModel.unpack := by
      intro x hx
      have hdifference : OnSide .negative (x - top).toModel.unpack :=
        onSide_sub hwide (canonical_unpack hwide _) (canonical_unpack hwide _) (hrow x hx) hfinite
          (htop x (List.mem_cons_of_mem _ hx))
      exact belowFour_expUnpacked hwide hdifference
    have hone : ReachesOne (exp32 (top - top)).toModel.unpack := by
      have hzero : (top - top).toModel.unpack = .zero .positive := by
        change repack .binary32 (sub .binary32 top.toModel.unpack top.toModel.unpack) = _
        rw [sub_self_of_isFinite hfinite, repack_zero hwide]
      exact reachesOne_expUnpacked hwide hzero
    have hpositive : ∀ p ∈ (first :: rest).map (fun x => exp32 (x - top)), BelowFour p.toModel.unpack := by
      simpa using hpower
    have hstart : OnSide .positive (0 : Float32).toModel.unpack := by
      have hzero : (0 : Float32).toModel.unpack = repack .binary32 (.zero .positive) := rfl
      rw [hzero, repack_zero hwide]
      trivial
    have htotal := reachesOne_total hstart (fun p hp => (hpositive p hp).onSide)
      (.inr ⟨_, List.mem_map_of_mem hmem', hone⟩)
    intro q hq
    obtain ⟨p, hp, rfl⟩ := List.mem_map.1 hq
    exact isFinite_div hwide (hpositive p hp) htotal

/-- Widening keeps what is finite. -/
theorem isFinite_widen {x : Float32} (hx : x.isFinite = true) : (widen x).isFinite = true := by
  have hx' : x.toModel.unpack.isFinite = true := hx
  change (widen x).toModel.unpack.isFinite = true
  rw [unpack_widen]
  cases h : x.toModel.unpack with
  | notANumber | infinity _ =>
    rw [h] at hx'
    cases hx'
  | zero _ | finite _ _ _ _ => rfl

end SequenceClassification.Score
