import SequenceClassification.Proofs.Weights.Effect

/-!
What an accepted file leaves of the values before it: nothing. In an accepted state every slot with
elements has a name that brings them, because a missing name is excused only by a name of its own slot.
Main statement: modules of one layout that load a file which one of them accepts end with equal values,
all of them read off tensors of the file.
-/
namespace SequenceClassification.Weights

theorem Suits.exists_tensor {slot : Slot} {v : Stored} {values : List Float32}
    (h : Suits slot v values) : ∃ t, v = .tensor t ∧ ∀ (k : ℕ) x, values[k]? = some x →
      (t.values.map Float.toFloat32)[k]? = some x := by
  cases h with
  | sameShape t hshape => exact ⟨t, rfl, fun _ _ h => h⟩
  | firstOfList t y rest hslot hlist hvalues =>
    refine ⟨t, rfl, fun k x h => ?_⟩
    cases k with
    | zero => simpa [hvalues] using h
    | succ k => simp at h

/-- In a state that fits and misses no name, every slot is brought values or has no elements. -/
theorem exists_lastBrings_of_accepted {l : Layout} {state : Entries String Stored}
    (hfits : Fits l state) (hmissing : missingNames l state = []) {n : String × Nat}
    (hn : n ∈ l.names) : (∃ values, LastBrings l state n.2 values) ∨ (l.slot n.2).size = 0 := by
  have hheld : ∀ n' ∈ l.names, Entries.has n'.1 state = true →
      ∃ values, LastBrings l state n'.2 values := by
    intro n' hn' hhas
    obtain ⟨v, hv⟩ := (Entries.has_iff_exists _ _).1 hhas
    obtain ⟨values, hsuits⟩ := hfits n' hn' v hv
    exact exists_lastBrings hn' ⟨v, hv, hsuits⟩
  by_cases hhas : Entries.has n.1 state = true
  · exact Or.inl (hheld n hn hhas)
  · by_cases hsize : (l.slot n.2).size = 0
    · exact Or.inr hsize
    · simp only [missingNames, List.map_eq_nil_iff, List.filter_eq_nil_iff] at hmissing
      have hreached : l.storage n.2 ∈ namedStorages l state := by
        simpa [hhas] using hmissing n hn
      simp only [namedStorages, List.mem_map, List.mem_filter] at hreached
      obtain ⟨n', ⟨hn', hhas'⟩, hstorage⟩ := hreached
      rw [Layout.storage_inj hsize hstorage.symm]
      exact Or.inl (hheld n' hn' hhas')

/-- A state that fits and misses no name determines what every slot holds in the end, whatever module it is
copied into. The elements are those of tensors that it holds under names of the slot. -/
theorem exists_values_of_accepted {l : Layout} {state : Entries String Stored} (hfits : Fits l state)
    (hmissing : missingNames l state = []) {n : String × Nat} (hn : n ∈ l.names) :
    ∃ values, (∀ (m : Module) (path : String), m.layout = l → m.Sound →
        (m.copyFrom path state).1.valuesOf n.2 = values) ∧
      ∀ (k : ℕ) x, values[k]? = some x → ∃ n' ∈ l.names, n'.2 = n.2 ∧
        ∃ t, Entries.get? n'.1 state = some (.tensor t) ∧
          (t.values.map Float.toFloat32)[k]? = some x := by
  by_cases hlast : ∃ values, LastBrings l state n.2 values
  · obtain ⟨values, hlast⟩ := hlast
    refine ⟨values, ?_, fun k x hx => ?_⟩
    · rintro m path rfl hsound
      exact valuesOf_copyFrom_of_last path hsound hfits.not_stops hlast
    · obtain ⟨pre, n', post, heq, hslot, ⟨v, hv, hsuits⟩, -⟩ := hlast
      obtain ⟨t, rfl, ht⟩ := hsuits.exists_tensor
      exact ⟨n', by simp [heq], hslot, t, hv, ht k x hx⟩
  · -- nothing is brought to the slot, and the state still counts as complete: the slot has no elements
    have hsize := (exists_lastBrings_of_accepted hfits hmissing hn).resolve_left hlast
    have hnone : ∀ n' ∈ l.names, n'.2 = n.2 → ∀ values, ¬ Brings l state n' values := by
      intro n' hn' hslot values hbrings
      exact hlast (hslot ▸ exists_lastBrings hn' hbrings)
    refine ⟨[], ?_, fun k x hx => by simp at hx⟩
    rintro m path rfl hsound
    rw [valuesOf_copyFrom_of_not_brings path hnone]
    apply List.eq_nil_of_length_eq_zero
    rw [hsound.length_valuesOf, hsize]

namespace Store

theorem entries_of_load_eq_ok {s : Store} {m : Module} {path : String} {content : FileContent}
    (hm : s.attached = some m) (hok : (s.load path content).2 = .ok ()) :
    ∃ state entries, readState path content = .ok state ∧ state.entries? = some entries ∧
      (m.copyFrom (Path.normalize path) entries).2 = .ok () := by
  cases hread : readState path content with
  | error e => simp [load, hm, hread] at hok
  | ok state =>
    cases htable : state.entries? with
    | none => simp [load, hm, hread, htable] at hok
    | some entries =>
      rw [load_of_entries hm hread htable] at hok
      exact ⟨state, entries, rfl, htable, hok⟩

/-- If a file loads into one module, it loads into any two sound modules of the same layout, whatever
their values, and leaves both with the same values. Each element is read off a tensor that the state
within the file holds under the name itself or under another name of the same slot. -/
theorem load_overwrites {s s₁ s₂ : Store} {m m₁ m₂ : Module} {path : String} {content : FileContent}
    (hm : s.attached = some m) (hok : (s.load path content).2 = .ok ())
    (hm₁ : s₁.attached = some m₁) (hl₁ : m₁.layout = m.layout) (hsound₁ : m₁.Sound)
    (hm₂ : s₂.attached = some m₂) (hl₂ : m₂.layout = m.layout) (hsound₂ : m₂.Sound) :
    ∃ state entries m₁' m₂', readState path content = .ok state ∧ state.entries? = some entries ∧
      s₁.load path content = ({ s₁ with attached := some m₁' }, .ok ()) ∧
      s₂.load path content = ({ s₂ with attached := some m₂' }, .ok ()) ∧
      m₁'.layout = m.layout ∧ m₂'.layout = m.layout ∧
      ∀ n ∈ m.layout.names, m₁'.valuesOf n.2 = m₂'.valuesOf n.2 ∧
        ∀ (k : ℕ) x, (m₁'.valuesOf n.2)[k]? = some x → ∃ n' ∈ m.layout.names, n'.2 = n.2 ∧
          ∃ t, Entries.get? n'.1 entries = some (.tensor t) ∧
            (t.values.map Float.toFloat32)[k]? = some x := by
  obtain ⟨state, entries, hread, htable, hcopied⟩ := entries_of_load_eq_ok hm hok
  obtain ⟨hfits, hmissing⟩ := (copyFrom_eq_ok_iff m _).1 hcopied
  have hcopied₁ : (m₁.copyFrom (Path.normalize path) entries).2 = .ok () :=
    (copyFrom_eq_ok_iff m₁ _).2 (by rw [hl₁]; exact ⟨hfits, hmissing⟩)
  have hcopied₂ : (m₂.copyFrom (Path.normalize path) entries).2 = .ok () :=
    (copyFrom_eq_ok_iff m₂ _).2 (by rw [hl₂]; exact ⟨hfits, hmissing⟩)
  refine ⟨state, entries, (m₁.copyFrom (Path.normalize path) entries).1,
    (m₂.copyFrom (Path.normalize path) entries).1, hread, htable, ?_, ?_, hl₁, hl₂, fun n hn => ?_⟩
  · rw [load_of_entries hm₁ hread htable, hcopied₁]
  · rw [load_of_entries hm₂ hread htable, hcopied₂]
  · obtain ⟨values, hvalues, hsource⟩ := exists_values_of_accepted hfits hmissing hn
    have hvalues₁ := hvalues m₁ (Path.normalize path) hl₁ hsound₁
    have hvalues₂ := hvalues m₂ (Path.normalize path) hl₂ hsound₂
    refine ⟨hvalues₁.trans hvalues₂.symm, fun k x hx => ?_⟩
    rw [hvalues₁] at hx
    exact hsource k x hx

end Store

def fullState : Entries String Stored :=
  [("head", .tensor ⟨[2], [3, 4]⟩), ("bias", .tensor ⟨[1], [5]⟩)]

def wrappedFile : FileContent :=
  .stored (.table (fullState.map fun e => ("module." ++ e.1, e.2)))

/-- The module with tied names and values of its own. -/
def tiedModule : Module := ⟨tiedLayout, [some [7, 8], some [9]]⟩

theorem sound_tiedModule : tiedModule.Sound where
  names_in := by decide
  cells := rfl
  sizes i values hi := by
    have hlt : i < 2 := (List.getElem?_eq_some_iff.1 hi).1
    obtain rfl | rfl : i = 0 ∨ i = 1 := by omega
    · cases hi
      rfl
    · cases hi
      rfl

theorem load_overwrites_tiedLayout :
    tiedModule.valuesOf 0 = [7, 8] ∧ (Module.zero tiedLayout).valuesOf 0 = [0, 0] ∧
    ∃ m₁ m₂ : Module,
      Store.load { attached := some tiedModule } "w.bin" wrappedFile = ({ attached := some m₁ }, .ok ()) ∧
      Store.load { attached := some (.zero tiedLayout) } "w.bin" wrappedFile =
        ({ attached := some m₂ }, .ok ()) ∧
      ∀ n ∈ tiedLayout.names, m₁.valuesOf n.2 = m₂.valuesOf n.2 := by
  have hzero : (Module.zero tiedLayout).Sound := Module.sound_zero (by decide)
  have hread : readState "w.bin" wrappedFile = .ok (.table fullState) := by rfl
  have hcopied : (tiedModule.copyFrom (Path.normalize "w.bin") fullState).2 = .ok () :=
    (copyFrom_eq_ok_iff tiedModule _).2 ⟨by decide, rfl⟩
  have hload := Store.load_of_entries (s := ⟨"cpu", some tiedModule⟩) rfl hread rfl
  have hok : (Store.load { attached := some tiedModule } "w.bin" wrappedFile).2 = .ok () := by
    rw [hload]
    exact hcopied
  obtain ⟨_, _, m₁, m₂, -, -, hload₁, hload₂, -, -, hvalues⟩ :=
    Store.load_overwrites (m := tiedModule) (s := ⟨"cpu", some tiedModule⟩) rfl hok
      (rfl : Store.attached ⟨"cpu", some tiedModule⟩ = some tiedModule) rfl sound_tiedModule
      (rfl : Store.attached ⟨"cpu", some (.zero tiedLayout)⟩ = some (.zero tiedLayout)) rfl hzero
  exact ⟨rfl, rfl, m₁, m₂, hload₁, hload₂, fun n hn => (hvalues n hn).1⟩

end SequenceClassification.Weights
