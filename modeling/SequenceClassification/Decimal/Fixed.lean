import SequenceClassification.Decimal.Binary

/-!
Decimals with a set number of places. The exact quotient is rounded to the nearest multiple of the last
place, and a value half way between two multiples goes to the even one. Main statements: the rounded
quotient is within half a unit of the exact one, and a tie gives an even number.
-/
namespace SequenceClassification.Decimal

/-- `num / den` rounded to the nearest whole number, a tie going to the even one. -/
def roundDiv (num den : Nat) : Nat :=
  let whole := num / den
  let part := num % den
  if 2 * part < den then whole
  else if den < 2 * part then whole + 1
  else whole + whole % 2

/-- The rounded quotient is within half a unit of the exact one. -/
theorem roundDiv_near {num den : Nat} (h : 0 < den) :
    2 * (roundDiv num den * den) ≤ 2 * num + den ∧
      2 * num ≤ 2 * (roundDiv num den * den) + den := by
  have e : den * (num / den) + num % den = num := Nat.div_add_mod num den
  have l : num % den < den := Nat.mod_lt _ h
  unfold roundDiv
  generalize num / den = w at *
  generalize num % den = p at *
  have hs : (w + 1) * den = den * w + den := by rw [Nat.add_mul, Nat.mul_comm]; simp
  have hw : w * den = den * w := Nat.mul_comm ..
  have hp : w % 2 = 0 ∨ w % 2 = 1 := by omega
  by_cases h1 : 2 * p < den
  · simp only [h1, if_true]; omega
  · by_cases h2 : den < 2 * p
    · simp only [h1, h2, if_true, if_false]; omega
    · simp only [h1, h2, if_false]
      rcases hp with hp | hp
      · rw [hp, Nat.add_zero]; omega
      · rw [hp]; omega

/-- A tie gives an even number. -/
theorem roundDiv_tie {num den : Nat} (h : 2 * (num % den) = den) : roundDiv num den % 2 = 0 := by
  unfold roundDiv
  have h1 : ¬ 2 * (num % den) < den := by omega
  have h2 : ¬ den < 2 * (num % den) := by omega
  simp only [h1, h2, if_false]
  omega

/-- The text of `units / 10 ^ places`. -/
def placed (places units : Nat) : String :=
  let digits := Nat.toDigits 10 units
  let digits := List.replicate (places + 1 - digits.length) '0' ++ digits
  let cut := digits.length - places
  String.ofList (digits.take cut ++ (if places == 0 then [] else '.' :: digits.drop cut))

def fixedUnits (places : Nat) (x : Float) : Nat :=
  let v := Binary.ofFloat x
  if 0 ≤ v.q then v.m * twoTo v.q.toNat * tenTo places
  else roundDiv (v.m * tenTo places) (twoTo (-v.q).toNat)

/-- A value to a number of places. What rounds to zero has no sign. -/
def fixed (places : Nat) (x : Float) : String :=
  if x.isNaN then "nan"
  else if x.isInf then (if isNegative x then "-inf" else "inf")
  else
    let units := fixedUnits places x
    (if isNegative x && units != 0 then "-" else "") ++ placed places units

end SequenceClassification.Decimal
