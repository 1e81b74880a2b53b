/-!
Classes of characters given by their boundaries: an ascending list of code points at which membership
changes, beginning outside. The first entry opens the first range, the second closes it, and so on, so
a character belongs to the class exactly when an odd number of boundaries are at most its code point.
-/
namespace SequenceClassification.Text

/-- Whether code point `n` lies in the class with the given ascending boundaries. -/
def insideBoundaries : List Nat → Nat → Bool
  | [], _ => false
  | b :: rest, n => if n < b then false else !insideBoundaries rest n

/-- A class of one range holds exactly the code points of that range. -/
theorem insideBoundaries_pair {a b n : Nat} :
    insideBoundaries [a, b] n = (decide (a ≤ n) && decide (n < b)) := by
  by_cases h : n < a
  · simp [insideBoundaries, h, Nat.not_le.mpr h]
  · by_cases h' : n < b <;> simp [insideBoundaries, h, h', Nat.not_lt.mp h]

end SequenceClassification.Text
