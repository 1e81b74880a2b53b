import SequenceClassification.Proofs.Weights.Acceptance
import SequenceClassification.Proofs.Weights.Normalization

/-!
What loading leaves in a module, whether it succeeds or fails. A module is sound if every name points to a
slot and every slot holds as many elements as its shape says. Main statement: a slot of a sound module
ends with what the last of its names that brings anything brings, and is left alone if none does, whatever
the order of the entries; names and shapes stay, and what is no readable table changes nothing.
-/
namespace SequenceClassification.Weights

instance (l : Layout) : Decidable l.WellFormed := by
  unfold Layout.WellFormed
  infer_instance

/-- Every name points to a slot, and every slot holds as many elements as its shape says. -/
structure Module.Sound (m : Module) : Prop where
  names_in : m.layout.WellFormed
  cells : m.copies.length = m.layout.slots.length
  sizes : ∀ i values, m.copies[i]? = some (some values) → values.length = (m.layout.slot i).size

theorem Module.sound_zero {l : Layout} (h : l.WellFormed) : (Module.zero l).Sound where
  names_in := h
  cells := by simp [Module.zero]
  sizes i values hi := by
    simp only [Module.zero, List.getElem?_replicate] at hi
    split at hi <;> simp at hi

theorem Module.Sound.length_valuesOf {m : Module} (h : m.Sound) (i : Nat) :
    (m.valuesOf i).length = (m.layout.slot i).size := by
  unfold Module.valuesOf
  split
  · rename_i values hi
    exact h.sizes i values hi
  · simp

theorem Module.Sound.slot_lt {m : Module} (h : m.Sound) {n : String × Nat}
    (hn : n ∈ m.layout.names) : n.2 < m.copies.length := by
  rw [h.cells]
  exact h.names_in n hn

theorem valuesOf_congr {m m' : Module} {i : Nat} (hl : m.layout = m'.layout)
    (hc : m.copies[i]? = m'.copies[i]?) : m.valuesOf i = m'.valuesOf i := by
  simp [Module.valuesOf, hl, hc]

theorem not_stops_of_shape {l : Layout} {state : Entries String Stored} {n : String × Nat}
    (h : (l.slot n.2).shape ≠ []) : ¬ Stops l state n := by
  rintro ⟨v, hv, t, rfl, hslot, -⟩
  exact h hslot

/-- Of the names of a slot that bring anything, the last in module order brings the values. -/
def LastBrings (l : Layout) (state : Entries String Stored) (i : Nat) (values : List Float32) : Prop :=
  ∃ pre n post, l.names = pre ++ n :: post ∧ n.2 = i ∧ Brings l state n values ∧
    ∀ n' ∈ post, n'.2 = i → ∀ values', ¬ Brings l state n' values'

theorem exists_last {α : Type} {p : α → Prop} {xs : List α} (h : ∃ x ∈ xs, p x) :
    ∃ pre x post, xs = pre ++ x :: post ∧ p x ∧ ∀ y ∈ post, ¬ p y := by
  induction xs with
  | nil => simp at h
  | cons a xs ih =>
    by_cases hxs : ∃ x ∈ xs, p x
    · obtain ⟨pre, x, post, heq, hx, hpost⟩ := ih hxs
      exact ⟨a :: pre, x, post, by simp [heq], hx, hpost⟩
    · obtain ⟨x, hx, hpx⟩ := h
      rcases List.mem_cons.1 hx with rfl | hmem
      · exact ⟨[], x, xs, rfl, hpx, fun y hy hpy => hxs ⟨y, hy, hpy⟩⟩
      · exact absurd ⟨x, hmem, hpx⟩ hxs

/-- A slot with a name that brings anything has a last one. -/
theorem exists_lastBrings {l : Layout} {state : Entries String Stored} {n : String × Nat}
    {values : List Float32} (hn : n ∈ l.names) (h : Brings l state n values) :
    ∃ values', LastBrings l state n.2 values' := by
  obtain ⟨pre, n', post, heq, ⟨hslot, values', hbrings⟩, hpost⟩ :=
    exists_last (p := fun n' => n'.2 = n.2 ∧ ∃ values, Brings l state n' values)
      ⟨n, hn, rfl, values, h⟩
  exact ⟨values', pre, n', post, heq, hslot, hbrings,
    fun n'' hn'' hslot' values'' hb => hpost n'' hn'' ⟨hslot', values'', hb⟩⟩

section
variable {m : Module} (path : String) {state : Entries String Stored}

theorem valuesOf_copyFrom_of_last (hm : m.Sound)
    (hstops : ∀ n ∈ m.layout.names, ¬ Stops m.layout state n) {i : Nat} {values : List Float32}
    (h : LastBrings m.layout state i values) : (m.copyFrom path state).1.valuesOf i = values := by
  obtain ⟨pre, n, post, heq, rfl, hbrings, hpost⟩ := h
  have hn : n ∈ m.layout.names := by simp [heq]
  have hpre : ∀ n' ∈ pre, ¬ Stops m.layout state n' := fun n' hn' =>
    hstops n' (by simp [heq, hn'])
  have hcell := Copying.getElem?_foldl_of_last (c := { copies := m.copies }) rfl hpre
    (hm.slot_lt hn) hbrings hpost
  rw [← heq] at hcell
  simp [Module.valuesOf, Module.copyFrom, Copying.all, hcell]

theorem valuesOf_copyFrom_of_not_brings {i : Nat}
    (h : ∀ n ∈ m.layout.names, n.2 = i → ∀ values, ¬ Brings m.layout state n values) :
    (m.copyFrom path state).1.valuesOf i = m.valuesOf i :=
  valuesOf_congr rfl (Copying.getElem?_foldl_of_not_brings m.layout.names { copies := m.copies } i h)

/-- Copying sees of a state only what look-up gives for the names of the module. -/
theorem copyFrom_congr_of_names {es fs : Entries String Stored}
    (h : ∀ n ∈ m.layout.names, Entries.get? n.1 es = Entries.get? n.1 fs) :
    m.copyFrom path es = m.copyFrom path fs := by
  have hhas : ∀ n ∈ m.layout.names, Entries.has n.1 es = Entries.has n.1 fs := fun n hn => by
    simp [Entries.has, h n hn]
  have hall : Copying.all m es = Copying.all m fs :=
    List.foldl_ext _ _ _ fun c n hn => by simp [Copying.offer, h n hn]
  have hstorages : namedStorages m.layout es = namedStorages m.layout fs :=
    congrArg (List.map fun n : String × Nat => m.layout.storage n.2) (List.filter_congr hhas)
  have hmissing : missingNames m.layout es = missingNames m.layout fs := by
    unfold missingNames
    rw [hstorages]
    exact congrArg (List.map Prod.fst) (List.filter_congr fun n hn => by rw [hhas n hn])
  simp [Module.copyFrom, Copying.outcome, hall, hmissing]

theorem copyFrom_congr {es fs : Entries String Stored} (h : Alike es fs) :
    m.copyFrom path es = m.copyFrom path fs := copyFrom_congr_of_names path fun n _ => h n.1

def allMissing (l : Layout) (path : String) : Failure :=
  .own .weightLoading ("Weights in " ++ path ++ " are missing " ++ toString l.names.length ++
    " tensors, e.g. " ++ Text.bracketed (((l.names.map Prod.fst).take 5).map Text.quoted))

/-- A state without any name of a module leaves the module as it is and is refused for all names. -/
theorem copyFrom_of_not_held (hnames : m.layout.names ≠ [])
    (h : ∀ n ∈ m.layout.names, Entries.get? n.1 state = none) :
    m.copyFrom path state = (m, .error (allMissing m.layout path)) := by
  have hhas : ∀ n ∈ m.layout.names, Entries.has n.1 state = false := fun n hn => by
    simp [Entries.has, h n hn]
  have hfits : Fits m.layout state := fun n hn v hv => by simp [h n hn] at hv
  have hstorages : namedStorages m.layout state = [] := by
    simp only [namedStorages, List.map_eq_nil_iff, List.filter_eq_nil_iff, Bool.not_eq_true]
    exact hhas
  have hmissing : missingNames m.layout state = m.layout.names.map Prod.fst := by
    refine congrArg (List.map Prod.fst) (List.filter_eq_self.2 fun n hn => ?_)
    simp [hstorages, hhas n hn]
  have hall : Copying.all m state = { copies := m.copies } :=
    (List.foldl_ext _ _ _ fun c n hn => Copying.offer_of_get?_none (h n hn)).trans (List.foldl_fixed _)
  have hmodule : (m.copyFrom path state).1 = m := by simp [Module.copyFrom, hall]
  have houtcome := copyFrom_of_fits m path hfits
  rw [hmissing, List.length_map, if_neg (by simpa using hnames)] at houtcome
  exact Prod.ext hmodule houtcome

end

def Whole (state : Entries String Stored) : Prop :=
  ∀ k t, Entries.get? k state = some (.tensor t) → t.values.length = elements t.shape

section
variable {l : Layout} {state : Entries String Stored} {n : String × Nat}

theorem Brings.length_eq {values : List Float32} (h : Brings l state n values) (hw : Whole state) :
    values.length = (l.slot n.2).size := by
  obtain ⟨v, hv, hsuits⟩ := h
  cases hsuits with
  | sameShape t hshape =>
    rw [List.length_map, hw n.1 t hv, hshape]
    rfl
  | firstOfList t x rest hslot =>
    rw [Slot.size, hslot]
    rfl

def Copying.Sized (l : Layout) (c : Copying) : Prop :=
  ∀ i values, c.copies[i]? = some (some values) → values.length = (l.slot i).size

theorem Copying.Sized.offer {c : Copying} (hc : c.Sized l) (hw : Whole state) :
    (c.offer l state n).Sized l := by
  by_cases hbrings : ∃ values, Brings l state n values
  · obtain ⟨values, hbrings⟩ := hbrings
    by_cases hstopped : c.stopped = true
    · rwa [offer_of_stopped hstopped]
    · intro i values' hi
      rw [copies_offer_of_brings (by simpa using hstopped) hbrings, List.getElem?_set] at hi
      split at hi
      · rename_i hslot
        split at hi
        · cases hi
          rw [← hslot]
          exact hbrings.length_eq hw
        · cases hi
      · exact hc i values' hi
  · intro i values hi
    rw [copies_offer_of_not_brings fun values h => hbrings ⟨values, h⟩] at hi
    exact hc i values hi

theorem Copying.Sized.foldl (hw : Whole state) (ns : List (String × Nat)) {c : Copying}
    (hc : c.Sized l) : (ns.foldl (Copying.offer l state) c).Sized l := by
  induction ns generalizing c with
  | nil => exact hc
  | cons n ns ih => exact ih (hc.offer hw)

/-- Copying whole tensors keeps a module sound. -/
theorem Module.Sound.copyFrom {m : Module} (h : m.Sound) (path : String) (hw : Whole state) :
    (m.copyFrom path state).1.Sound where
  names_in := h.names_in
  cells := (Copying.length_foldl m.layout.names { copies := m.copies }).trans h.cells
  sizes := Copying.Sized.foldl hw m.layout.names (c := { copies := m.copies }) h.sizes

end

/-- The same stored table with entries in another order, in the table itself or in the one that it keeps
under the key of the state. -/
inductive Rearranged : Stored → Stored → Prop
  | outside {v w : Stored} {es fs : Entries String Stored} (hv : v.entries? = some es)
      (hw : w.entries? = some fs) (hn : (Entries.keys es).Nodup) (hperm : es.Perm fs) : Rearranged v w
  | inside {v w x : Stored} {es fs xs : Entries String Stored} (hx : x.entries? = some xs)
      (hxs : (Entries.keys xs).Nodup) (hkey : Entries.get? stateKey xs = some v)
      (hv : v.entries? = some es) (hw : w.entries? = some fs) (hn : (Entries.keys es).Nodup)
      (hperm : es.Perm fs) : Rearranged x (.table (Entries.put stateKey w xs))

namespace Store

variable {s : Store} {path : String}

theorem load_of_table {m : Module} {v : Stored} {es : Entries String Stored}
    (hm : s.attached = some m)
    (hread : readState path (.stored v) = .ok (.table (removeMarks es))) :
    s.load path (.stored v) =
      ({ s with attached := some (m.copyFrom (Path.normalize path) (removeMarks es)).1 },
        (m.copyFrom (Path.normalize path) (removeMarks es)).2) :=
  load_of_entries hm hread (Stored.entries?_table _)

theorem load_of_not_attached (h : s.attached = none) (content : FileContent) :
    s.load path content = (s, s.module.map fun _ => ()) := by
  simp [load, h]

/-- Loading a file that holds a state is copying the state without its marks. -/
theorem load_of_holdsState {m : Module} {v : Stored} {es : Entries String Stored}
    (hm : s.attached = some m) (h : HoldsState v es) :
    s.load path (.stored v) =
      ({ s with attached := some (m.copyFrom (Path.normalize path) (removeMarks es)).1 },
        (m.copyFrom (Path.normalize path) (removeMarks es)).2) := by
  obtain ⟨fs, halike, hread⟩ := h.exists_readState path
  rw [load_of_table hm hread, copyFrom_congr _ halike.removeMarks]

/-- Files that hold states which are alike without their marks load alike. -/
theorem load_of_alike_states {v w : Stored} {es fs : Entries String Stored} (hv : HoldsState v es)
    (hw : HoldsState w fs) (h : Alike (removeMarks es) (removeMarks fs)) :
    s.load path (.stored v) = s.load path (.stored w) := by
  cases hm : s.attached with
  | none => rw [load_of_not_attached hm, load_of_not_attached hm]
  | some m => rw [load_of_holdsState hm hv, load_of_holdsState hm hw, copyFrom_congr _ h]

/-- Files whose tables are alike load alike. -/
theorem load_of_alike {v w : Stored} {es fs : Entries String Stored} (hv : v.entries? = some es)
    (hw : w.entries? = some fs) (h : Alike es fs) :
    s.load path (.stored v) = s.load path (.stored w) := by
  cases hkey : Entries.get? stateKey es with
  | none =>
    have hkey' : Entries.get? stateKey fs = none := by rw [← h, hkey]
    exact load_of_alike_states (.itself hv hkey) (.itself hw hkey') h.removeMarks
  | some inner =>
    -- both keep the same value under the key of the state, be it a table or not
    obtain ⟨es', hes, hes'⟩ := entries?_listed path hv
    obtain ⟨fs', hfs, hfs'⟩ := entries?_listed path hw
    have hunwrapped : unwrapped es' = unwrapped fs' := by
      simp [unwrapped, ← hes' stateKey, ← hfs' stateKey, ← h stateKey, hkey]
    have hread : readState path (.stored v) = readState path (.stored w) := by
      rw [readState_stored hes, readState_stored hfs, normalizedState, normalizedState, hunwrapped]
    simp [load, hread]

theorem load_of_rearranged {v w : Stored} (h : Rearranged v w) :
    s.load path (.stored v) = s.load path (.stored w) := by
  cases h with
  | outside hv hw hn hperm => exact load_of_alike hv hw (alike_of_perm hn hperm)
  | @inside v w _ es fs xs hx _ hkey hv hw hn hperm =>
    have hkept : HoldsState (.table (Entries.put stateKey w xs)) fs :=
      .kept _ w (Stored.entries?_table _) (Entries.get?_put_self stateKey w xs) hw
    exact load_of_alike_states (.kept xs v hx hkey hv) hkept (alike_of_perm hn hperm).removeMarks

theorem parameterCount_load (content : FileContent) :
    (s.load path content).1.parameterCount = s.parameterCount := by
  have hlayout := layout_load (s := s) path content
  unfold parameterCount Store.module
  cases hm : s.attached <;> cases hm' : (s.load path content).1.attached <;>
    simp_all [Except.map]

/-- What is no readable table changes nothing. -/
theorem load_of_unreadable {content : FileContent}
    (h : ∀ state, readState path content = .ok state → state.entries? = none) :
    (s.load path content).1 = s := by
  unfold load
  cases s.attached with
  | none => rfl
  | some m =>
    cases hread : readState path content with
    | error e => rfl
    | ok state => simp [h state hread]

/-- What loading leaves in a sound module, be it accepted or refused: each slot holds what the last of its
names that brings anything brings, and is left alone if none does. The order of the entries is of no
influence, names and shapes stay, and what is no readable table changes nothing. -/
theorem load_effect {m : Module} (hm : s.attached = some m) (hsound : m.Sound) (path : String) :
    (∀ content state entries, readState path content = .ok state → state.entries? = some entries →
      (∀ n ∈ m.layout.names, ¬ Stops m.layout entries n) →
      ∃ m', (s.load path content).1 = { s with attached := some m' } ∧ ∀ n ∈ m.layout.names,
        (∀ values, LastBrings m.layout entries n.2 values → m'.valuesOf n.2 = values) ∧
        ((∀ n' ∈ m.layout.names, n'.2 = n.2 → ∀ values, ¬ Brings m.layout entries n' values) →
          m'.valuesOf n.2 = m.valuesOf n.2)) ∧
    (∀ v w, Rearranged v w → s.load path (.stored v) = s.load path (.stored w)) ∧
    (∀ content, (s.load path content).1.attached.map Module.layout = some m.layout ∧
      (s.load path content).1.parameterCount = s.parameterCount) ∧
    ∀ content, (∀ state, readState path content = .ok state → state.entries? = none) →
      (s.load path content).1 = s := by
  refine ⟨?_, fun v w h => load_of_rearranged h, fun content => ⟨?_, parameterCount_load content⟩,
    fun content h => load_of_unreadable h⟩
  · intro content state entries hread htable hstops
    rw [load_of_entries hm hread htable]
    refine ⟨(m.copyFrom (Path.normalize path) entries).1, rfl, fun n _ => ⟨?_, ?_⟩⟩
    · exact fun values hlast => valuesOf_copyFrom_of_last _ hsound hstops hlast
    · exact fun hnone => valuesOf_copyFrom_of_not_brings _ hnone
  · rw [layout_load, hm]
    rfl

end Store

/-- A state with two values for one tensor of the module and one that does not fit the other. -/
def clashingState : Entries String Stored :=
  [("head", .tensor ⟨[2], [3, 4]⟩), ("bias", .tensor ⟨[3], [5, 6, 7]⟩), ("table", .tensor ⟨[2], [1, 2]⟩)]

theorem load_effect_of_clashingState :
    (Module.zero tiedLayout).Sound ∧
    (Store.load { attached := some (.zero tiedLayout) } "w.bin" (.stored (.table clashingState))).2.isOk =
      false ∧
    ∃ m', (Store.load { attached := some (.zero tiedLayout) } "w.bin"
        (.stored (.table clashingState))).1 = { attached := some m' } ∧
      m'.valuesOf 0 = [(3 : Float).toFloat32, (4 : Float).toFloat32] ∧
      m'.valuesOf 1 = (Module.zero tiedLayout).valuesOf 1 := by
  have hsound : (Module.zero tiedLayout).Sound := Module.sound_zero (by decide)
  have hread : readState "w.bin" (.stored (.table clashingState)) = .ok (.table clashingState) := by rfl
  have hstops : ∀ n ∈ tiedLayout.names, ¬ Stops tiedLayout clashingState n := by
    have hshape : ∀ n ∈ tiedLayout.names, (tiedLayout.slot n.2).shape ≠ [] := by decide
    exact fun n hn => not_stops_of_shape (hshape n hn)
  obtain ⟨hvalues, -⟩ :=
    Store.load_effect (s := { attached := some (.zero tiedLayout) }) rfl hsound "w.bin"
  obtain ⟨m', hm', hslots⟩ := hvalues _ _ _ hread rfl hstops
  refine ⟨hsound, rfl, m', hm', ?_, ?_⟩
  · have hhead : Brings tiedLayout clashingState ("head", 0) _ := ⟨_, rfl, .sameShape _ rfl⟩
    exact (hslots ("table", 0) (by decide)).1 _
      ⟨[("table", 0), ("bias", 1)], ("head", 0), [], rfl, rfl, hhead, by simp⟩
  · refine (hslots ("bias", 1) (by decide)).2 ?_
    have honly : ∀ n ∈ tiedLayout.names, n.2 = 1 → n = ("bias", 1) := by decide
    intro n hn hslot values hbrings
    rw [honly n hn hslot] at hbrings
    obtain ⟨v, hv, hsuits⟩ := hbrings
    cases hv
    cases hsuits with
    | sameShape _ hshape => exact absurd hshape (by decide)
    | firstOfList _ _ _ hshape => exact absurd hshape (by decide)

end SequenceClassification.Weights
