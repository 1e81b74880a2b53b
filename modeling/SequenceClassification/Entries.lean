/-!
Entries in order of arrival: a list of pairs in which writing to a key that is present changes its value
in place, and writing to a new key appends. Main statements: what `put` does to look-up and to the keys.
-/
namespace SequenceClassification

/-- Pairs of a key and its value, in the order in which the keys arrived. -/
abbrev Entries (κ α : Type) := List (κ × α)

namespace Entries

variable {κ α : Type} [DecidableEq κ]

def get? (k : κ) : Entries κ α → Option α
  | [] => none
  | (j, v) :: rest => if j = k then some v else get? k rest

/-- Writes the value of a key, in place if the key is present and at the end otherwise. -/
def put (k : κ) (v : α) : Entries κ α → Entries κ α
  | [] => [(k, v)]
  | (j, w) :: rest => if j = k then (j, v) :: rest else (j, w) :: put k v rest

def keys (es : Entries κ α) : List κ := es.map Prod.fst

def ofPairs (pairs : List (κ × α)) : Entries κ α := pairs.foldl (fun es p => put p.1 p.2 es) []

def has (k : κ) (es : Entries κ α) : Bool := (es.get? k).isSome

/-- The value written is the value found. -/
theorem get?_put_self (k : κ) (v : α) (es : Entries κ α) : (put k v es).get? k = some v := by
  induction es with
  | nil => simp [put, get?]
  | cons e es ih =>
    obtain ⟨j, w⟩ := e
    by_cases h : j = k <;> simp [put, get?, h, ih]

/-- Other keys keep their values. -/
theorem get?_put_of_ne {k k' : κ} (h : k' ≠ k) (v : α) (es : Entries κ α) :
    (put k v es).get? k' = es.get? k' := by
  induction es with
  | nil => simp [put, get?, Ne.symm h]
  | cons e es ih =>
    obtain ⟨j, w⟩ := e
    by_cases hj : j = k
    · subst hj
      simp [put, get?, Ne.symm h]
    · simp only [put, hj, if_false, get?]
      rw [ih]

/-- A key is present exactly when it is among the keys. -/
theorem get?_isSome_iff (k : κ) (es : Entries κ α) : (es.get? k).isSome = true ↔ k ∈ es.keys := by
  induction es with
  | nil => simp [get?, keys]
  | cons e es ih =>
    obtain ⟨j, w⟩ := e
    by_cases h : j = k
    · simp [get?, keys, h]
    · have : k ≠ j := fun e => h e.symm
      simp only [get?, h, if_false, keys, List.map_cons, List.mem_cons, this, false_or]
      exact ih

/-- A new key goes to the end. -/
theorem keys_put_of_not_mem {k : κ} (v : α) {es : Entries κ α} (h : k ∉ es.keys) :
    (put k v es).keys = es.keys ++ [k] := by
  induction es with
  | nil => simp [put, keys]
  | cons e es ih =>
    obtain ⟨j, w⟩ := e
    simp only [keys, List.map_cons, List.mem_cons, not_or] at h ih
    have hj : j ≠ k := fun e => h.1 e.symm
    simp only [put, keys, hj, if_false, List.map_cons, List.cons_append]
    rw [ih h.2]

/-- Writing to a key that is present moves nothing. -/
theorem keys_put_of_mem {k : κ} (v : α) {es : Entries κ α} (h : k ∈ es.keys) :
    (put k v es).keys = es.keys := by
  induction es with
  | nil => simp [keys] at h
  | cons e es ih =>
    obtain ⟨j, w⟩ := e
    by_cases hj : j = k
    · simp [put, keys, hj]
    · simp only [keys, List.map_cons, List.mem_cons] at h ih
      rcases h with h | h
      · exact absurd h.symm hj
      · simp only [put, keys, hj, if_false, List.map_cons]
        rw [ih h]

end Entries

end SequenceClassification
