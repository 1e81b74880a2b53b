import Mathlib.Algebra.Order.Ring.Int
import Mathlib.Data.Prod.Lex
import SequenceClassification.Score.Real32

/-!
The order of floating-point values. Every value that is a number has a place on a line: numbers of one sign
are ordered by exponent and mantissa, and both zeros stand at one place. To compare numbers is to compare
their places, and what is no number compares with nothing.
-/
namespace SequenceClassification.Score

open Float.Model (UnpackedFloat)

/-- The place of a value on the line of numbers. What is no number is put beyond them. -/
def place : UnpackedFloat → ℤ ×ₗ ℤ ×ₗ ℤ
  | .infinity .negative => toLex (-2, toLex (0, 0))
  | .finite .negative mantissa exponent _ => toLex (-1, toLex (-exponent, -mantissa))
  | .zero _ => toLex (0, toLex (0, 0))
  | .finite .positive mantissa exponent _ => toLex (1, toLex (exponent, mantissa))
  | .infinity .positive => toLex (2, toLex (0, 0))
  | .notANumber => toLex (3, toLex (0, 0))

section
variable {m m' : ℕ} {e e' : ℤ} {h : 0 < m} {h' : 0 < m'}

theorem place_positive_le_iff : place (.finite .positive m e h) ≤ place (.finite .positive m' e' h') ↔
    e < e' ∨ e = e' ∧ m ≤ m' := by
  change toLex ((1 : ℤ), toLex (e, (m : ℤ))) ≤ toLex (1, toLex (e', (m' : ℤ))) ↔ _
  simp [Prod.Lex.toLex_le_toLex]

theorem place_negative_le_iff : place (.finite .negative m e h) ≤ place (.finite .negative m' e' h') ↔
    e' < e ∨ e' = e ∧ m' ≤ m := by
  change toLex ((-1 : ℤ), toLex (-e, -(m : ℤ))) ≤ toLex (-1, toLex (-e', -(m' : ℤ))) ↔ _
  simp [Prod.Lex.toLex_le_toLex, eq_comm]

end

theorem cmp_toLex {α β : Type} [LinearOrder α] [LinearOrder β] (a a' : α) (b b' : β) :
    cmp (toLex (a, b)) (toLex (a', b')) = (cmp a a').then (cmp b b') := by
  rcases lt_trichotomy a a' with h | rfl | h
  · rw [(cmp_eq_lt_iff a a').2 h, (cmp_eq_lt_iff _ _).2 (Prod.Lex.toLex_lt_toLex.2 (.inl h))]
    rfl
  · have hmono : StrictMono fun x : β => toLex (a, x) := fun x y h =>
      Prod.Lex.toLex_lt_toLex.2 (.inr ⟨rfl, h⟩)
    rw [hmono.cmp_map_eq, cmp_self_eq_eq, Ordering.eq_then]
  · rw [(cmp_eq_gt_iff a a').2 h, (cmp_eq_gt_iff _ _).2 (Prod.Lex.toLex_lt_toLex.2 (.inl h))]
    rfl

theorem cmp_neg_neg (x y : ℤ) : cmp (-x) (-y) = (cmp x y).swap := by
  have hanti : StrictAnti fun z : ℤ => -z := fun _ _ h => neg_lt_neg h
  rw [cmp_swap, hanti.cmp_map_eq]

theorem isLE_cmp {α : Type} [LinearOrder α] (x y : α) : (cmp x y).isLE = true ↔ x ≤ y := by
  rw [← not_lt, ← cmp_eq_gt_iff]
  cases cmp x y <;> decide

theorem compare_eq_cmp_place {a b : UnpackedFloat} (ha : a.isNaN = false) (hb : b.isNaN = false) :
    a.compare b = some (cmp (place a) (place b)) := by
  cases a with
  | notANumber => cases ha
  | infinity s | zero s =>
    cases b with
    | notANumber => cases hb
    | infinity t | zero t | finite t _ _ _ => cases s <;> cases t <;> rfl
  | finite s m e _ =>
    cases b with
    | notANumber => cases hb
    | infinity t | zero t => cases s <;> cases t <;> rfl
    | finite t m' e' _ =>
      -- of two numbers of one sign the exponents decide, then the mantissas
      have hsize : (compare e e').then (compare m m') = (cmp e e').then (cmp (m : ℤ) m') := by
        rw [Nat.strictMono_cast.cmp_map_eq, cmp_eq_compare, cmp_eq_compare]
      cases s <;> cases t
      case negative.negative =>
        change some ((compare e e').then (compare m m')).swap =
          some (cmp (toLex (-1, toLex (-e, -(m : ℤ)))) (toLex (-1, toLex (-e', -(m' : ℤ)))))
        rw [hsize, cmp_toLex, cmp_toLex, cmp_self_eq_eq, Ordering.eq_then, cmp_neg_neg, cmp_neg_neg,
          Ordering.swap_then]
      case positive.positive =>
        change some ((compare e e').then (compare m m')) =
          some (cmp (toLex (1, toLex (e, (m : ℤ)))) (toLex (1, toLex (e', (m' : ℤ)))))
        rw [hsize, cmp_toLex, cmp_toLex, cmp_self_eq_eq, Ordering.eq_then]
      all_goals rfl

theorem lt_iff_place {a b : UnpackedFloat} (ha : a.isNaN = false) (hb : b.isNaN = false) :
    a.lt b = true ↔ place a < place b := by
  rw [UnpackedFloat.lt, compare_eq_cmp_place ha hb, ← cmp_eq_lt_iff]
  cases cmp (place a) (place b) <;> decide

theorem le_iff_place {a b : UnpackedFloat} (ha : a.isNaN = false) (hb : b.isNaN = false) :
    a.le b = true ↔ place a ≤ place b := by
  rw [UnpackedFloat.le, compare_eq_cmp_place ha hb, ← isLE_cmp]
  cases cmp (place a) (place b) <;> decide

theorem compare_of_isNaN {a b : UnpackedFloat} (h : a.isNaN = true ∨ b.isNaN = true) :
    a.compare b = none := by
  cases a with
  | notANumber => cases b <;> rfl
  | infinity s | zero s | finite s _ _ _ =>
    cases b with
    | notANumber => cases s <;> rfl
    | infinity _ | zero _ | finite _ _ _ _ => rcases h with h | h <;> cases h

theorem isNaN_of_isFinite {a : UnpackedFloat} (h : a.isFinite = true) : a.isNaN = false := by
  cases a with
  | notANumber => cases h
  | infinity _ | zero _ | finite _ _ _ _ => rfl

theorem isNaN_of_le {a b : UnpackedFloat} (h : a.le b = true) :
    a.isNaN = false ∧ b.isNaN = false := by
  by_contra hnan
  have hsome : a.isNaN = true ∨ b.isNaN = true := by
    rw [← Bool.not_eq_true, ← Bool.not_eq_true, not_and_or, not_not, not_not] at hnan
    exact hnan
  rw [UnpackedFloat.le, compare_of_isNaN hsome] at h
  cases h

section
variable {x y z : Float}

theorem le64_iff : x ≤ y ↔ x.toModel.unpack.le y.toModel.unpack = true := decide_eq_true_iff

theorem lt64_iff : x < y ↔ x.toModel.unpack.lt y.toModel.unpack = true := decide_eq_true_iff

/-- What is no number is at least no value. -/
theorem not_le_of_isNaN {x : Float} (h : x.isNaN = true) (y : Float) : ¬ y ≤ x := by
  intro hle
  have hnumber : x.isNaN = false := (isNaN_of_le (le64_iff.1 hle)).2
  rw [h] at hnumber
  cases hnumber

theorem le64_trans (hxy : x ≤ y) (hyz : y ≤ z) : x ≤ z := by
  rw [le64_iff] at hxy hyz ⊢
  obtain ⟨hx, hy⟩ := isNaN_of_le hxy
  obtain ⟨-, hz⟩ := isNaN_of_le hyz
  rw [le_iff_place hx hy] at hxy
  rw [le_iff_place hy hz] at hyz
  exact (le_iff_place hx hz).2 (hxy.trans hyz)

/-- A number that does not reach a bound is below it, unless the bound is no number. -/
theorem lt_or_isNaN_of_not_le (hy : y.isNaN = false) (h : ¬ x ≤ y) : y < x ∨ x.isNaN = true := by
  cases hx : x.isNaN with
  | true => exact .inr rfl
  | false =>
    left
    rw [le64_iff, le_iff_place hx hy, not_le] at h
    exact lt64_iff.2 ((lt_iff_place hy hx).2 h)

end

section
variable {x y : Float32}

def place32 (x : Float32) : ℤ ×ₗ ℤ ×ₗ ℤ := place x.toModel.unpack

theorem lt32_iff : x < y ↔ x.toModel.unpack.lt y.toModel.unpack = true := decide_eq_true_iff

theorem lt32_iff_place (hx : x.isNaN = false) (hy : y.isNaN = false) :
    x < y ↔ place32 x < place32 y :=
  lt32_iff.trans (lt_iff_place hx hy)

theorem le32_iff_place (hx : x.isNaN = false) (hy : y.isNaN = false) :
    x ≤ y ↔ place32 x ≤ place32 y :=
  (decide_eq_true_iff (p := x.toModel.unpack.le y.toModel.unpack = true)).trans (le_iff_place hx hy)

theorem not_lt_of_isNaN (h : x.isNaN = true) : ¬ x < y := by
  rw [lt32_iff, UnpackedFloat.lt, compare_of_isNaN (.inl h)]
  decide

end

end SequenceClassification.Score
