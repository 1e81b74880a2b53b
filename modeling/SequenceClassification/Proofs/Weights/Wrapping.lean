import SequenceClassification.Proofs.Weights.Marks
import SequenceClassification.Proofs.Weights.Overwriting

/-!
Files that hold a state whose names stand behind the marks of wrappers. Main statements: a state whose names
were wrapped in the order in which marks are removed reads as the state itself; wrapped in the other order
it keeps its inner mark, and a module finds none of its names.
-/
namespace SequenceClassification.Weights

variable {state : Entries String Stored} {v : Stored} {path : String}

theorem exists_join_of_mem {p : String} (hp : p ∈ ["", "backbone.", "module.", "backbone.module."]) :
    ∃ kept : List String, kept.Sublist wrapperMarks ∧ String.join kept = p := by
  simp only [List.mem_cons, List.not_mem_nil, or_false] at hp
  rcases hp with rfl | rfl | rfl | rfl
  · exact ⟨[], by decide, rfl⟩
  · exact ⟨["backbone."], by decide, rfl⟩
  · exact ⟨["module."], by decide, rfl⟩
  · exact ⟨wrapperMarks, by decide, rfl⟩

/-- Marks put before the names make none of them the key of the state. -/
theorem get?_stateKey_marked {kept : List String} (hkept : kept.Sublist wrapperMarks)
    (hkey : Entries.get? stateKey state = none) :
    Entries.get? stateKey (marked (String.join kept) state) = none := by
  cases kept with
  | nil => simpa using hkey
  | cons mark kept =>
    have hmark : mark ∈ wrapperMarks := hkept.subset (List.mem_cons_self ..)
    have hbare : ∀ mark ∈ wrapperMarks, carries mark stateKey = false := by decide
    rw [String.join_cons, marked_append]
    exact get?_marked_of_not_carries (hbare mark hmark)

namespace Store

/-- A state whose names do not all begin with one mark reads as itself, in the same order, whatever
wrapper's text stands before its names and whether or not the file keeps it under the key of the state. So
the file loads as a plain file of the state does. -/
theorem load_of_wrapped (path : String) {p : String} (hkey : Entries.get? stateKey state = none)
    (hlacks : ∀ mark ∈ wrapperMarks, ∃ k ∈ Entries.keys state, carries mark k = false)
    (hp : p ∈ ["", "backbone.", "module.", "backbone.module."])
    (hpath : Path.suffix path ≠ sortedFormat)
    (hv : v.entries? = some (marked p state) ∨ ∃ xs inner, v.entries? = some xs ∧
      Entries.get? stateKey xs = some inner ∧ inner.entries? = some (marked p state)) :
    readState path (.stored v) = .ok (.table state) ∧
      ∀ s : Store, s.load path (.stored v) = s.load path (.stored (.table state)) := by
  obtain ⟨kept, hkept, rfl⟩ := exists_join_of_mem hp
  have hholds : HoldsState v (marked (String.join kept) state) := by
    rcases hv with hv | ⟨xs, inner, hxs, hstate, hinner⟩
    · exact .itself hv (get?_stateKey_marked hkept hkey)
    · exact .kept xs inner hxs hstate hinner
  have hread : readState path (.stored v) = .ok (.table state) := by
    rw [hholds.readState_eq hpath, removeMarks_marked hkept hlacks]
  have hsame : removeMarks (marked (String.join kept) state) = removeMarks state := by
    rw [removeMarks_marked hkept hlacks, removeMarks_eq_self hlacks]
  have halike : Alike (removeMarks (marked (String.join kept) state)) (removeMarks state) :=
    fun _ => by rw [hsame]
  exact ⟨hread, fun s => load_of_alike_states hholds (holdsState_table hkey) halike⟩

end Store

/-- A state in which one name begins with a mark. -/
def partlyMarkedState : Entries String Stored :=
  [("backbone.table", .tensor ⟨[2], [3, 4]⟩), ("bias", .tensor ⟨[1], [5]⟩)]

theorem load_of_wrapped_of_partlyMarked :
    Entries.get? stateKey partlyMarkedState = none ∧
    (∀ mark ∈ wrapperMarks, ∃ k ∈ Entries.keys partlyMarkedState, carries mark k = false) ∧
    readState "w.pt" (.stored (.table [("num_classes", .plain (.int 2)),
      (stateKey, .table (marked "backbone.module." partlyMarkedState))])) =
        .ok (.table partlyMarkedState) ∧
    ∀ s : Store, s.load "w.pt" (.stored (.table [("num_classes", .plain (.int 2)),
      (stateKey, .table (marked "backbone.module." partlyMarkedState))])) =
        s.load "w.pt" (.stored (.table partlyMarkedState)) := by
  have hkey : Entries.get? stateKey partlyMarkedState = none := rfl
  have hlacks : ∀ mark ∈ wrapperMarks, ∃ k ∈ Entries.keys partlyMarkedState,
      carries mark k = false := by decide
  have hpath : Path.suffix "w.pt" ≠ sortedFormat := by decide
  exact ⟨hkey, hlacks, Store.load_of_wrapped "w.pt" hkey hlacks (by decide) hpath
    (.inr ⟨_, _, rfl, rfl, rfl⟩)⟩

/-- Marks in the other order are tried too early: the inner one stays. -/
theorem removeMarks_swapped (hstate : state ≠ []) :
    removeMarks (marked "module.backbone." state) = marked "backbone." state := by
  have hapart : Apart "backbone." "module." := by decide
  have hfirst : removeMark "backbone." (marked ("module." ++ "backbone.") state) =
      marked ("module." ++ "backbone.") state := removeMark_marked_of_apart hapart hstate _
  have htext : "module.backbone." = "module." ++ "backbone." := by decide
  simp only [removeMarks, wrapperMarks, List.foldl_cons, List.foldl_nil]
  rw [htext, hfirst, marked_append, removeMark_marked]

namespace Store

/-- Loading a state without any name of the module changes nothing, and all names are missing. -/
theorem load_of_not_held {s : Store} {m : Module} (hm : s.attached = some m)
    (hholds : HoldsState v state) (hnames : m.layout.names ≠ [])
    (hnone : ∀ n ∈ m.layout.names, Entries.get? n.1 (removeMarks state) = none) :
    s.load path (.stored v) = (s, .error (allMissing m.layout (Path.normalize path))) := by
  rw [load_of_holdsState hm hholds, copyFrom_of_not_held _ hnames hnone, ← hm]

/-- Of a state none of whose names begins with a mark: wrapped in the order in which marks are removed it
loads as the plain state does. Wrapped in the other order it loads as the state with its inner mark would
without any removal, so a module with names, none of which begins with that mark, finds none of them and
is left alone. -/
theorem load_of_nested {s : Store} {m : Module} (path : String) {plain wrapped swapped : Stored}
    (hm : s.attached = some m) (hstate : state ≠ [])
    (hbare : ∀ mark ∈ wrapperMarks, ∀ k ∈ Entries.keys state, carries mark k = false)
    (hplain : HoldsState plain state)
    (hwrapped : HoldsState wrapped (marked "backbone.module." state))
    (hswapped : HoldsState swapped (marked "module.backbone." state)) :
    s.load path (.stored wrapped) = s.load path (.stored plain) ∧
    s.load path (.stored swapped) =
      ({ s with attached := some (m.copyFrom (Path.normalize path) (marked "backbone." state)).1 },
        (m.copyFrom (Path.normalize path) (marked "backbone." state)).2) ∧
    (m.layout.names ≠ [] → (∀ n ∈ m.layout.names, carries "backbone." n.1 = false) →
      s.load path (.stored swapped) = (s, .error (allMissing m.layout (Path.normalize path)))) := by
  obtain ⟨e, state', rfl⟩ := List.exists_cons_of_ne_nil hstate
  have hlacks : ∀ mark ∈ wrapperMarks, ∃ k ∈ Entries.keys (e :: state'), carries mark k = false :=
    fun mark hmark => ⟨e.1, List.mem_cons_self .., hbare mark hmark e.1 (List.mem_cons_self ..)⟩
  have hkept : removeMarks (marked "backbone.module." (e :: state')) = e :: state' :=
    removeMarks_marked (List.Sublist.refl wrapperMarks) hlacks
  have hinner := removeMarks_swapped hstate
  refine ⟨?_, ?_, fun hnames hnot => ?_⟩
  · rw [load_of_holdsState hm hwrapped, load_of_holdsState hm hplain, hkept,
      removeMarks_eq_self hlacks]
  · rw [load_of_holdsState hm hswapped, hinner]
  · refine load_of_not_held hm hswapped hnames fun n hn => ?_
    rw [hinner]
    exact get?_marked_of_not_carries (hnot n hn)

end Store

theorem copyFrom_fullState (path : String) : (tiedModule.copyFrom path fullState).2 = .ok () :=
  (copyFrom_eq_ok_iff tiedModule path).2 ⟨by decide, rfl⟩

theorem load_of_nested_of_tiedModule :
    (∀ mark ∈ wrapperMarks, ∀ k ∈ Entries.keys fullState, carries mark k = false) ∧
    (Store.load { attached := some tiedModule } "w.bin"
      (.stored (.table (marked "backbone.module." fullState)))).2 = .ok () ∧
    Store.load { attached := some tiedModule } "w.bin"
      (.stored (.table (marked "module.backbone." fullState))) = ({ attached := some tiedModule },
        .error (.own .weightLoading
          "Weights in w.bin are missing 3 tensors, e.g. ['table', 'bias', 'head']")) := by
  have hbare : ∀ mark ∈ wrapperMarks, ∀ k ∈ Entries.keys fullState, carries mark k = false := by decide
  have hstate : fullState ≠ [] := List.cons_ne_nil _ _
  have hplain : HoldsState (.table fullState) fullState := holdsState_table rfl
  have hinOrder : HoldsState (.table (marked "backbone.module." fullState))
      (marked "backbone.module." fullState) := holdsState_table rfl
  have hswapped : HoldsState (.table (marked "module.backbone." fullState))
      (marked "module.backbone." fullState) := holdsState_table rfl
  obtain ⟨hsame, -, hrefused⟩ :=
    Store.load_of_nested "w.bin" (s := ⟨"cpu", some tiedModule⟩) rfl hstate hbare hplain hinOrder hswapped
  refine ⟨hbare, ?_, hrefused (by decide) (by decide)⟩
  rw [hsame, Store.load_of_holdsState rfl hplain]
  exact copyFrom_fullState (Path.normalize "w.bin")

end SequenceClassification.Weights
