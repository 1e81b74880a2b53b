import Mathlib.Data.List.Perm.Basic
import Mathlib.Order.Lattice

/-!
What is known of a sorted list. Entries that the order of the sort does not tell apart keep the order they
had, and a sort by a linear order does not see the order of its input at all. The greatest of a list is found
by going along it.
-/
namespace SequenceClassification

section
variable {α : Type} {le : α → α → Bool}

/-- Entries that are tied with each other stand in a sorted list as they stood before. -/
theorem filter_mergeSort (htrans : ∀ a b c, le a b = true → le b c = true → le a c = true)
    (htotal : ∀ a b, (le a b || le b a) = true) {p : α → Bool} {xs : List α}
    (htied : (xs.filter p).Pairwise fun a b => le a b = true) : (xs.mergeSort le).filter p = xs.filter p := by
  have hsub := (List.sublist_mergeSort htrans htotal htied List.filter_sublist).filter p
  have hlength := ((List.mergeSort_perm xs le).filter p).length_eq
  rw [List.filter_filter] at hsub
  simp only [Bool.and_self] at hsub
  exact (hsub.eq_of_length hlength.symm).symm

/-- A sort orders a list by its own order first, and then by the order that the list had. -/
theorem pairwise_mergeSort_of_pairwise (htrans : ∀ a b c, le a b = true → le b c = true → le a c = true)
    (htotal : ∀ a b, (le a b || le b a) = true) {R : α → α → Prop} {xs : List α} (h : xs.Pairwise R) :
    (xs.mergeSort le).Pairwise fun a b => le a b = true ∧ (le b a = true → R a b) := by
  have hself : ∀ a, le a a = true := fun a => by
    have ha := htotal a a
    rwa [Bool.or_self] at ha
  refine List.pairwise_iff_forall_sublist.2 fun {a b} hab => ?_
  have hle := List.pairwise_iff_forall_sublist.1 (List.pairwise_mergeSort htrans htotal xs) hab
  refine ⟨hle, fun hba => List.pairwise_iff_forall_sublist.1 h ?_⟩
  -- the entries tied with the first one stand in the list as they do in the sorted one
  let tied : α → Bool := fun c => le a c && le c a
  have htied : (xs.filter tied).Pairwise fun c d => le c d = true := by
    refine List.pairwise_of_forall_mem_list fun c hc d hd => ?_
    have hc' := (List.mem_filter.1 hc).2
    have hd' := (List.mem_filter.1 hd).2
    rw [Bool.and_eq_true] at hc' hd'
    exact htrans c a d hc'.2 hd'.1
  have hpair : [a, b].filter tied = [a, b] := by
    rw [List.filter_eq_self]
    intro c hc
    rcases List.mem_pair.1 hc with hca | hcb
    · rw [hca, Bool.and_eq_true]
      exact ⟨hself a, hself a⟩
    · rw [hcb, Bool.and_eq_true]
      exact ⟨hle, hba⟩
  have hkept := hab.filter tied
  rw [hpair, filter_mergeSort htrans htotal htied] at hkept
  exact hkept.trans List.filter_sublist

end

section
variable {α : Type} [LinearOrder α] {le : α → α → Bool} (hle : ∀ a b, le a b = true ↔ a ≤ b)
include hle

/-- A list that is sorted by a linear order does not decrease. -/
theorem pairwise_mergeSort_of_linear (xs : List α) : (xs.mergeSort le).Pairwise (· ≤ ·) := by
  have htrans : ∀ a b c, le a b = true → le b c = true → le a c = true := fun a b c hab hbc =>
    (hle a c).2 (le_trans ((hle a b).1 hab) ((hle b c).1 hbc))
  have htotal : ∀ a b, (le a b || le b a) = true := fun a b => by
    rw [Bool.or_eq_true, hle, hle]
    exact le_total a b
  exact (List.pairwise_mergeSort htrans htotal xs).imp fun hab => (hle _ _).1 hab

/-- Sorting by a linear order does not see the order of its input. -/
theorem mergeSort_eq_of_perm {xs ys : List α} (h : xs.Perm ys) : xs.mergeSort le = ys.mergeSort le := by
  have hperm : (xs.mergeSort le).Perm (ys.mergeSort le) :=
    (List.mergeSort_perm xs le).trans (h.trans (List.mergeSort_perm ys le).symm)
  exact hperm.eq_of_pairwise (fun _ _ _ _ => le_antisymm) (pairwise_mergeSort_of_linear hle xs)
    (pairwise_mergeSort_of_linear hle ys)

end

section
variable {α : Type} (f : α → Nat)

/-- The greatest is no less than what the search begins with and than the value of any item. -/
theorem le_foldl_max (xs : List α) (n : Nat) :
    n ≤ xs.foldl (fun n x => max n (f x)) n ∧ ∀ x ∈ xs, f x ≤ xs.foldl (fun n x => max n (f x)) n := by
  induction xs generalizing n with
  | nil => exact ⟨Nat.le_refl n, nofun⟩
  | cons y xs ih =>
    obtain ⟨hstart, hrest⟩ := ih (max n (f y))
    refine ⟨Nat.le_trans (Nat.le_max_left _ _) hstart, fun x hx => ?_⟩
    rcases List.mem_cons.1 hx with rfl | hx
    · exact Nat.le_trans (Nat.le_max_right _ _) hstart
    · exact hrest x hx

/-- The greatest is what the search begins with or the value of an item. -/
theorem foldl_max_eq (xs : List α) (n : Nat) :
    xs.foldl (fun n x => max n (f x)) n = n ∨ ∃ x ∈ xs, f x = xs.foldl (fun n x => max n (f x)) n := by
  induction xs generalizing n with
  | nil => exact .inl rfl
  | cons y xs ih =>
    rcases ih (max n (f y)) with hstart | ⟨x, hx, hvalue⟩
    · rw [List.foldl_cons, hstart]
      rcases Nat.le_total n (f y) with hle | hle
      · exact .inr ⟨y, List.mem_cons_self, (Nat.max_eq_right hle).symm⟩
      · exact .inl (Nat.max_eq_left hle)
    · exact .inr ⟨x, List.mem_cons_of_mem _ hx, hvalue⟩

end

end SequenceClassification
