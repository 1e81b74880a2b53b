/-!
Splitting a text at a separator character. Main statement: the pieces joined by the separator are the text,
and no piece holds the separator.
-/
namespace SequenceClassification.Text

def splitOnChar (sep : Char) : List Char → List (List Char)
  | [] => [[]]
  | c :: s =>
    if c == sep then [] :: splitOnChar sep s
    else match splitOnChar sep s with
      | [] => [[c]]
      | piece :: rest => (c :: piece) :: rest

/-- There is at least one piece. -/
theorem splitOnChar_ne_nil (sep : Char) (s : List Char) : splitOnChar sep s ≠ [] := by
  cases s with
  | nil => simp [splitOnChar]
  | cons c s =>
    simp only [splitOnChar]
    split
    · simp
    · split <;> simp

/-- No piece holds the separator. -/
theorem not_mem_of_mem_splitOnChar {sep : Char} {s piece : List Char}
    (h : piece ∈ splitOnChar sep s) : sep ∉ piece := by
  induction s generalizing piece with
  | nil =>
    simp only [splitOnChar, List.mem_singleton] at h
    simp [h]
  | cons c s ih =>
    simp only [splitOnChar] at h
    by_cases hc : c = sep
    · simp only [hc, beq_self_eq_true, if_true] at h
      rcases List.mem_cons.1 h with rfl | h
      · simp
      · exact ih h
    · have hc' : (c == sep) = false := by simpa using hc
      simp only [hc', Bool.false_eq_true, if_false] at h
      cases hs : splitOnChar sep s with
      | nil => exact absurd hs (splitOnChar_ne_nil sep s)
      | cons first rest =>
        rw [hs] at h ih
        rcases List.mem_cons.1 h with rfl | h
        · have := ih (List.mem_cons_self)
          simp [this, Ne.symm hc]
        · exact ih (List.mem_cons_of_mem _ h)

/-- The pieces joined by the separator are the text. -/
theorem intercalate_splitOnChar (sep : Char) (s : List Char) : [sep].intercalate (splitOnChar sep s) = s := by
  induction s with
  | nil => rfl
  | cons c s ih =>
    cases hs : splitOnChar sep s with
    | nil => exact absurd hs (splitOnChar_ne_nil sep s)
    | cons first rest =>
      rw [hs] at ih
      by_cases hc : c = sep
      · simp only [splitOnChar, hc, beq_self_eq_true, if_true, hs]
        rw [← ih]
        simp [List.intercalate]
      · have hc' : (c == sep) = false := by simpa using hc
        simp only [splitOnChar, hc', hs, Bool.false_eq_true, if_false]
        cases rest <;> simp_all [List.intercalate]

theorem splitOnChar_of_not_mem {sep : Char} {s : List Char} (h : sep ∉ s) :
    splitOnChar sep s = [s] := by
  induction s with
  | nil => rfl
  | cons c s ih =>
    obtain ⟨hc, hs⟩ := not_or.1 (mt List.mem_cons.2 h)
    have hne : (c == sep) = false := by simpa using Ne.symm hc
    simp [splitOnChar, hne, ih hs]

theorem splitOnChar_append {sep : Char} {a : List Char} (h : sep ∉ a) (b : List Char) :
    splitOnChar sep (a ++ sep :: b) = a :: splitOnChar sep b := by
  induction a with
  | nil => simp [splitOnChar]
  | cons c a ih =>
    obtain ⟨hc, ha⟩ := not_or.1 (mt List.mem_cons.2 h)
    have hne : (c == sep) = false := by simpa using Ne.symm hc
    simp [splitOnChar, hne, ih ha]

end SequenceClassification.Text
