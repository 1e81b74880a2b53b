import SequenceClassification.Proofs.Lookup
import SequenceClassification.Proofs.Sorting
import SequenceClassification.Weights.StateFile

/-!
What a reader of a weights file can see of the order of its entries. Tables are alike if every look-up
gives the same; tables that hold the same distinct names in another order are. Removing the marks of
wrappers keeps tables alike, and so does listing them by name. A file holds a state if it is the table of
the state or keeps it under the key of the state; it is read as that state without its marks.
-/
namespace SequenceClassification.Weights

/-- Two tables in which every look-up gives the same. -/
def Alike (es fs : Entries String Stored) : Prop := ∀ k, Entries.get? k es = Entries.get? k fs

theorem alike_of_perm {es fs : Entries String Stored} (hn : (Entries.keys es).Nodup)
    (h : es.Perm fs) : Alike es fs := Entries.get?_perm hn h

theorem Alike.mem_keys_iff {es fs : Entries String Stored} (h : Alike es fs) (k : String) :
    k ∈ Entries.keys es ↔ k ∈ Entries.keys fs := by
  rw [← Entries.get?_isSome_iff, ← Entries.get?_isSome_iff, h k]

/-- A name that carries a mark is the mark and the name behind it. -/
theorem append_dropMark {mark name : String} (h : carries mark name = true) :
    mark ++ dropMark mark name = name := by
  obtain ⟨rest, hrest⟩ := List.isPrefixOf_iff_prefix.1 h
  apply String.toList_inj.1
  simp [dropMark, String.toList_append, ← hrest]

theorem all_carries_iff (mark : String) (es : Entries String Stored) :
    es.all (fun e => carries mark e.1) = true ↔ ∀ k ∈ Entries.keys es, carries mark k = true := by
  simp [Entries.keys]

/-- Behind a mark that every name carries, look-up is look-up with the mark. -/
theorem get?_map_dropMark {mark : String} {es : Entries String Stored}
    (h : ∀ k ∈ Entries.keys es, carries mark k = true) (k : String) :
    Entries.get? k (es.map fun e => (dropMark mark e.1, e.2)) = Entries.get? (mark ++ k) es := by
  induction es with
  | nil => rfl
  | cons e es ih =>
    obtain ⟨j, v⟩ := e
    have hj : carries mark j = true := h j (List.mem_cons_self ..)
    have hrest := ih fun k' hk' => h k' (List.mem_cons_of_mem _ hk')
    have hkey : dropMark mark j = k ↔ j = mark ++ k := by
      constructor
      · rintro rfl
        exact (append_dropMark hj).symm
      · rintro rfl
        exact dropMark_append mark k
    simp only [List.map_cons, Entries.get?, hkey, hrest]

theorem Alike.removeMark {es fs : Entries String Stored} (h : Alike es fs) (mark : String) :
    Alike (removeMark mark es) (removeMark mark fs) := by
  intro k
  -- the mark is removed from all names or from none, and alike tables have the same names
  by_cases hall : ∀ k ∈ Entries.keys es, carries mark k = true
  · have hall' : ∀ k ∈ Entries.keys fs, carries mark k = true :=
      fun k hk => hall k ((h.mem_keys_iff k).2 hk)
    rw [Weights.removeMark, Weights.removeMark, if_pos ((all_carries_iff mark es).2 hall),
      if_pos ((all_carries_iff mark fs).2 hall'), get?_map_dropMark hall, get?_map_dropMark hall']
    exact h _
  · have hall' : ¬ ∀ k ∈ Entries.keys fs, carries mark k = true :=
      fun hfs => hall fun k hk => hfs k ((h.mem_keys_iff k).1 hk)
    rw [Weights.removeMark, Weights.removeMark, if_neg (mt (all_carries_iff mark es).1 hall),
      if_neg (mt (all_carries_iff mark fs).1 hall')]
    exact h k

theorem Alike.removeMarks {es fs : Entries String Stored} (h : Alike es fs) :
    Alike (removeMarks es) (removeMarks fs) := by
  have hfold : ∀ (marks : List String) (es fs : Entries String Stored), Alike es fs →
      Alike (marks.foldl (fun s mark => Weights.removeMark mark s) es)
        (marks.foldl (fun s mark => Weights.removeMark mark s) fs) := by
    intro marks
    induction marks with
    | nil => exact fun _ _ h => h
    | cons mark marks ih => exact fun _ _ h => ih _ _ (h.removeMark mark)
  exact hfold wrapperMarks es fs h

/-- Sorting by name keeps the order of the entries of one name. -/
theorem alike_mergeSort (es : Entries String Stored) :
    Alike es (es.mergeSort fun a b => !(b.1 < a.1)) := by
  intro k
  let le (a b : String × Stored) : Bool := !(b.1 < a.1)
  have hle (a b : String × Stored) : le a b = true ↔ a.1 ≤ b.1 := by
    simp only [le, Bool.not_eq_true', decide_eq_false_iff_not]
    exact String.not_lt
  have htrans : ∀ a b c, le a b = true → le b c = true → le a c = true := fun a b c hab hbc =>
    (hle a c).2 (String.le_trans ((hle a b).1 hab) ((hle b c).1 hbc))
  have htotal : ∀ a b, (le a b || le b a) = true := fun a b => by
    rw [Bool.or_eq_true, hle, hle]
    exact String.le_total a.1 b.1
  have hsorted : (es.filter fun e => e.1 = k).Pairwise fun a b => le a b = true := by
    refine List.pairwise_of_forall_mem_list fun a ha b hb => (hle a b).2 ?_
    have hkeys : a.1 = b.1 := by simp_all
    exact hkeys ▸ String.le_refl a.1
  rw [← Entries.get?_filter k es, ← Entries.get?_filter k (es.mergeSort _),
    filter_mergeSort htrans htotal hsorted]

/-- Listing a table by name keeps it alike. -/
theorem entries?_listed (path : String) {v : Stored} {es : Entries String Stored}
    (hv : v.entries? = some es) : ∃ fs, (listed path v).entries? = some fs ∧ Alike es fs := by
  unfold listed
  split
  · exact ⟨_, by simp only [hv]; rfl, alike_mergeSort es⟩
  · exact ⟨es, hv, fun _ => rfl⟩

/-- A stored table is read as the state within it. -/
theorem readState_stored {path : String} {v : Stored} {es : Entries String Stored}
    (hv : (listed path v).entries? = some es) : readState path (.stored v) = normalizedState es := by
  unfold readState
  dsimp only
  rw [hv]

/-- What is no table is not read. -/
theorem readState_of_not_table {path : String} {v : Stored} (hv : (listed path v).entries? = none) :
    readState path (.stored v) = .error (.own .weightLoading ("Weights file " ++ Path.normalize path ++
      " does not contain a state dict")) := by
  unfold readState
  dsimp only
  rw [hv]

/-- A table under the key of the state is the state. -/
theorem normalizedState_of_wrapped {es state : Entries String Stored} {inner : Stored}
    (hinner : Entries.get? stateKey es = some inner) (hstate : inner.entries? = some state) :
    normalizedState es = .ok (.table (removeMarks state)) := by
  simp [normalizedState, unwrapped, hinner, hstate]

/-- Without the key of the state, the table is the state itself. -/
theorem normalizedState_of_plain {es : Entries String Stored}
    (hkey : Entries.get? stateKey es = none) :
    normalizedState es = .ok (.table (removeMarks es)) := by
  simp [normalizedState, unwrapped, hkey, Stored.entries?_table]

/-- What a stored value holds as a state: the table under the key of the state, or else the table that it
is. -/
inductive HoldsState (v : Stored) (es : Entries String Stored) : Prop
  | itself (hv : v.entries? = some es) (hkey : Entries.get? stateKey es = none)
  | kept (xs : Entries String Stored) (inner : Stored) (hv : v.entries? = some xs)
      (hkey : Entries.get? stateKey xs = some inner) (hinner : inner.entries? = some es)

section
variable {v : Stored} {es : Entries String Stored} {path : String}

theorem holdsState_table (hkey : Entries.get? stateKey es = none) : HoldsState (.table es) es :=
  .itself (Stored.entries?_table es) hkey

/-- Up to the order in which the file lists it, the state is read without its marks. -/
theorem HoldsState.exists_readState (h : HoldsState v es) (path : String) :
    ∃ fs, Alike es fs ∧ readState path (.stored v) = .ok (.table (removeMarks fs)) := by
  cases h with
  | itself hv hkey =>
    obtain ⟨fs, hfs, halike⟩ := entries?_listed path hv
    have hkey' : Entries.get? stateKey fs = none := by rw [← halike, hkey]
    exact ⟨fs, halike, (readState_stored hfs).trans (normalizedState_of_plain hkey')⟩
  | kept xs inner hv hkey hinner =>
    obtain ⟨fs, hfs, halike⟩ := entries?_listed path hv
    have hkey' : Entries.get? stateKey fs = some inner := by rw [← halike, hkey]
    exact ⟨es, fun _ => rfl,
      (readState_stored hfs).trans (normalizedState_of_wrapped hkey' hinner)⟩

/-- A file that is not sorted keeps the order of the state. -/
theorem HoldsState.readState_eq (h : HoldsState v es) (hpath : Path.suffix path ≠ sortedFormat) :
    readState path (.stored v) = .ok (.table (removeMarks es)) := by
  have hlisted : listed path v = v := by simp [listed, hpath]
  cases h with
  | itself hv hkey =>
    exact (readState_stored (by rw [hlisted, hv])).trans (normalizedState_of_plain hkey)
  | kept xs inner hv hkey hinner =>
    exact (readState_stored (by rw [hlisted, hv])).trans (normalizedState_of_wrapped hkey hinner)

end

end SequenceClassification.Weights
