/-!
Consecutive slices of a list, all of one length but the last, which may be shorter.
-/
namespace SequenceClassification

variable {α : Type}

/-- Slices of `k + 1` items. -/
def slicesOf (k : Nat) : List α → List (List α)
  | [] => []
  | x :: rest => (x :: rest.take k) :: slicesOf k (rest.drop k)
termination_by xs => xs.length
decreasing_by simp only [List.length_drop, List.length_cons]; omega

/-- The slices put together are the list. -/
theorem flatten_slicesOf (k : Nat) (xs : List α) : (slicesOf k xs).flatten = xs := by
  fun_induction slicesOf k xs with
  | case1 => rfl
  | case2 x rest ih =>
    simp only [List.flatten_cons, ih, List.cons_append, List.take_append_drop]

/-- No slice is empty and none is longer than asked for. -/
theorem length_of_mem_slicesOf {k : Nat} {xs slice : List α} (h : slice ∈ slicesOf k xs) :
    0 < slice.length ∧ slice.length ≤ k + 1 := by
  fun_induction slicesOf k xs with
  | case1 => cases h
  | case2 x rest ih =>
    rcases List.mem_cons.1 h with rfl | h
    · simp only [List.length_cons, List.length_take]
      omega
    · exact ih h

/-- A list that fits into one slice is it. -/
theorem slicesOf_of_length_le {k : Nat} {xs : List α} (hne : xs ≠ []) (h : xs.length ≤ k + 1) :
    slicesOf k xs = [xs] := by
  obtain ⟨x, rest, rfl⟩ := List.exists_cons_of_ne_nil hne
  have hrest : rest.length ≤ k := by simpa using h
  rw [slicesOf, List.take_of_length_le hrest, List.drop_eq_nil_of_le hrest, slicesOf]

end SequenceClassification
