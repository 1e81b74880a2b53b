import Mathlib.Data.List.Sublists
import SequenceClassification.Proofs.Weights.Wrapping

/-!
A further entry in a file that a module accepts, under a name that is not the module's. Whether it is
ignored depends on its name alone: a mark is removed only if every name carries it, so a further name that
lacks one of the marks of the others keeps that mark before all of them. Main statement: a further entry
that carries all marks of the others changes nothing; after any other one the module finds none of its
names.
-/
namespace SequenceClassification.Weights

/-- A name that is not one of the module, neither as it stands nor behind marks of wrappers. -/
def Foreign (l : Layout) (k : String) : Prop :=
  ∀ kept ∈ wrapperMarks.sublists, ∀ n ∈ l.names, k ≠ String.join kept ++ n.1

instance (l : Layout) (k : String) : Decidable (Foreign l k) := by
  unfold Foreign
  infer_instance

section
variable {l : Layout} {es fs : Entries String Stored} {k : String} {v : Stored} {n : String × Nat}

/-- Behind marks of wrappers a further foreign entry hides no name of the module. -/
theorem get?_of_foreign (hperm : fs.Perm ((k, v) :: es)) (hdistinct : (Entries.keys fs).Nodup)
    (hforeign : Foreign l k) {kept : List String} (hkept : kept.Sublist wrapperMarks)
    (hn : n ∈ l.names) :
    Entries.get? (String.join kept ++ n.1) fs = Entries.get? (String.join kept ++ n.1) es := by
  have hne : k ≠ String.join kept ++ n.1 := hforeign kept (List.mem_sublists.2 hkept) n hn
  rw [Entries.get?_perm hdistinct hperm, Entries.get?, if_neg hne]

theorem sharedMarks_of_perm (hperm : fs.Perm ((k, v) :: es)) :
    sharedMarks wrapperMarks (Entries.keys fs) = sharedMarks wrapperMarks (k :: Entries.keys es) :=
  sharedMarks_congr fun _ => (hperm.map Prod.fst).mem_iff

/-- A further entry that carries the marks of the others is not seen by the names of a module. -/
theorem get?_removeMarks_of_carries (hperm : fs.Perm ((k, v) :: es))
    (hdistinct : (Entries.keys fs).Nodup) (hforeign : Foreign l k)
    (hcarries : carries (sharedText es) k = true) (hn : n ∈ l.names) :
    Entries.get? n.1 (removeMarks fs) = Entries.get? n.1 (removeMarks es) := by
  have hshared := (sharedMarks_of_perm hperm).trans (sharedMarks_of_carries hcarries)
  rw [get?_removeMarks, get?_removeMarks, sharedText, sharedText, hshared]
  exact get?_of_foreign hperm hdistinct hforeign (sharedMarks_sublist _ _) hn

/-- A further entry that lacks one of the marks of the others leaves that mark before all of them. -/
theorem get?_removeMarks_of_not_carries (hperm : fs.Perm ((k, v) :: es))
    (hdistinct : (Entries.keys fs).Nodup) (hforeign : Foreign l k) (hes : es ≠ [])
    (hcarries : carries (sharedText es) k = false) (hn : n ∈ l.names)
    (hbare : ∀ mark ∈ wrapperMarks, carries mark n.1 = false) :
    Entries.get? n.1 (removeMarks fs) = none := by
  obtain ⟨mark, hmark, more, hshared⟩ := exists_sharedMarks_append apart_wrapperMarks
    (List.map_eq_nil_iff.not.2 hes) (Bool.eq_false_iff.1 hcarries)
  have hmarked := marked_sharedMarks wrapperMarks es
  rw [Entries.keys, hshared, String.join_append, String.join_cons, marked_append, marked_append]
    at hmarked
  have hbehind := (congrArg (Entries.get? _) hmarked.symm).trans (get?_marked _ n.1 _)
  rw [get?_removeMarks, sharedText, sharedMarks_of_perm hperm,
    get?_of_foreign hperm hdistinct hforeign (sharedMarks_sublist _ _) hn]
  exact hbehind.trans (get?_marked_of_not_carries (hbare mark hmark))

end

namespace Store

/-- Only a module without names accepts an empty state. -/
theorem ne_nil_of_load_eq_ok {s : Store} {m : Module} {path : String} {x : Stored}
    {es : Entries String Stored} (hm : s.attached = some m)
    (hok : (s.load path (.stored x)).2 = .ok ()) (hx : HoldsState x es)
    (hnames : m.layout.names ≠ []) : es ≠ [] := by
  rintro rfl
  rw [load_of_not_held hm hx hnames fun n _ => rfl] at hok
  cases hok

/-- A further entry under a foreign name, in a file that the module accepts. If the name carries the marks
that are removed from the others, the file loads as without the entry. If it does not, then a module with
names, none of which begins with a mark, finds none of them and is left alone. -/
theorem load_of_extra {s : Store} {m : Module} {path : String} {x y : Stored}
    {es fs : Entries String Stored} {k : String} {v : Stored} (hm : s.attached = some m)
    (hok : (s.load path (.stored x)).2 = .ok ()) (hx : HoldsState x es) (hy : HoldsState y fs)
    (hperm : fs.Perm ((k, v) :: es)) (hdistinct : (Entries.keys fs).Nodup)
    (hforeign : Foreign m.layout k) :
    (carries (sharedText es) k = true → s.load path (.stored y) = s.load path (.stored x)) ∧
    (carries (sharedText es) k = false → m.layout.names ≠ [] →
      (∀ n ∈ m.layout.names, ∀ mark ∈ wrapperMarks, carries mark n.1 = false) →
      s.load path (.stored y) = (s, .error (allMissing m.layout (Path.normalize path)))) := by
  constructor
  · intro hcarries
    have hsame := copyFrom_congr_of_names (m := m) (Path.normalize path) fun n hn =>
      get?_removeMarks_of_carries hperm hdistinct hforeign hcarries hn
    rw [load_of_holdsState hm hx, load_of_holdsState hm hy, hsame]
  · intro hcarries hnames hbare
    have hes : es ≠ [] := ne_nil_of_load_eq_ok hm hok hx hnames
    exact load_of_not_held hm hy hnames fun n hn =>
      get?_removeMarks_of_not_carries hperm hdistinct hforeign hes hcarries hn (hbare n hn)

end Store

/-- The values of the module with tied names, in a wrapper, after one further entry. -/
def extendedState (k : String) : Entries String Stored :=
  (k, .tensor ⟨[3], [0, 0, 0]⟩) :: marked "module." fullState

theorem load_of_extra_of_wrappedState :
    (Store.load { attached := some tiedModule } "w.bin"
      (.stored (.table (marked "module." fullState)))).2 = .ok () ∧
    Foreign tiedLayout "module.unused" ∧ Foreign tiedLayout "unused" ∧
    Store.load { attached := some tiedModule } "w.bin"
        (.stored (.table (extendedState "module.unused"))) =
      Store.load { attached := some tiedModule } "w.bin"
        (.stored (.table (marked "module." fullState))) ∧
    Store.load { attached := some tiedModule } "w.bin" (.stored (.table (extendedState "unused"))) =
      ({ attached := some tiedModule }, .error (.own .weightLoading
        "Weights in w.bin are missing 3 tensors, e.g. ['table', 'bias', 'head']")) := by
  have hheld : HoldsState (.table (marked "module." fullState)) (marked "module." fullState) :=
    holdsState_table rfl
  have hok : (Store.load { attached := some tiedModule } "w.bin"
      (.stored (.table (marked "module." fullState)))).2 = .ok () := by
    rw [Store.load_of_holdsState rfl hheld]
    exact copyFrom_fullState (Path.normalize "w.bin")
  have hmarked : Foreign tiedLayout "module.unused" := by decide
  have hbare : Foreign tiedLayout "unused" := by decide
  have hheldMarked : HoldsState (.table (extendedState "module.unused"))
      (extendedState "module.unused") := holdsState_table rfl
  have hheldBare : HoldsState (.table (extendedState "unused")) (extendedState "unused") :=
    holdsState_table rfl
  obtain ⟨hignored, -⟩ := Store.load_of_extra rfl hok hheld hheldMarked (List.Perm.refl _) (by decide) hmarked
  obtain ⟨-, hrefused⟩ := Store.load_of_extra rfl hok hheld hheldBare (List.Perm.refl _) (by decide) hbare
  exact ⟨hok, hmarked, hbare, hignored (by decide), hrefused (by decide) (by decide) (by decide)⟩

end SequenceClassification.Weights
