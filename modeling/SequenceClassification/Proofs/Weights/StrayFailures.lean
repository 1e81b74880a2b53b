import SequenceClassification.Proofs.Weights.Effect
import SequenceClassification.Weights.Loading

/-!
The failures of loading that are of another class than its own, with any library that reads weights files.
The library may fail with a class that is not expected. A file may keep under the key of the state what is
no table, and nothing looks whether it does; and a table may have a key that is no name, which cannot be
asked how it begins. Last, a tensor of the module that is a single number takes the first of a list of
numbers, of which there may be none. Main statement: of what a library reads, these are the only ways in
which loading fails with another class than its own, and what it fails with.
-/
namespace SequenceClassification.Weights

theorem Key.kind_failure (kind : String) : (Key.failure kind).kind ≠ .own .weightLoading := by
  unfold Key.failure
  split <;> simp [Failure.wrongType]

namespace Loaded

section
variable {es : List (Key × Loaded)} {kind : String}

theorem get?_named (k : String) (es : Entries String Stored) :
    Entries.get? (.name k) (named es) = (Entries.get? k es).map .value := by
  induction es with
  | nil => rfl
  | cons e es ih =>
    obtain ⟨j, v⟩ := e
    simp only [named, List.map_cons, Entries.get?, Key.name.injEq] at ih ⊢
    split
    · rfl
    · exact ih

theorem namedEntries_named (es : Entries String Stored) : namedEntries (named es) = es := by
  induction es with
  | nil => rfl
  | cons e es ih => exact congrArg (e :: ·) ih

theorem firstOther?_named (es : Entries String Stored) : firstOther? (named es) = none := by
  induction es with
  | nil => rfl
  | cons e es ih => exact ih

theorem firstOther?_map_dropMark (mark : String) (es : List (Key × Loaded)) :
    firstOther? (es.map fun (key, v) => (key.dropMark mark, v)) = firstOther? es := by
  induction es with
  | nil => rfl
  | cons e es ih =>
    obtain ⟨key, v⟩ := e
    cases key with
    | name name => exact ih
    | other kind => rfl

theorem namedEntries_map_dropMark (mark : String) (es : List (Key × Loaded)) :
    namedEntries (es.map fun (key, v) => (key.dropMark mark, v)) =
      (namedEntries es).map fun e => (dropMark mark e.1, e.2) := by
  induction es with
  | nil => rfl
  | cons e es ih =>
    obtain ⟨key, v⟩ := e
    cases key with
    | name name => exact congrArg ((dropMark mark name, v.stored) :: ·) ih
    | other kind => exact ih

/-- Names can all be asked. -/
theorem allCarry_of_names (h : firstOther? es = none) (mark : String) :
    allCarry mark es = .ok ((namedEntries es).all fun e => carries mark e.1) := by
  induction es with
  | nil => rfl
  | cons e es ih =>
    obtain ⟨key, v⟩ := e
    cases key with
    | name name =>
      have hrest := ih h
      by_cases hcarries : carries mark name = true
      · simpa [allCarry, namedEntries, hcarries] using hrest
      · simp [allCarry, namedEntries, hcarries]
    | other kind => cases h

/-- Asking ends before the first key that is no name, or fails at it. -/
theorem allCarry_of_other (h : firstOther? es = some kind) (mark : String) :
    allCarry mark es = .ok false ∨ allCarry mark es = .error (Key.failure kind) := by
  induction es with
  | nil => cases h
  | cons e es ih =>
    obtain ⟨key, v⟩ := e
    cases key with
    | name name =>
      by_cases hcarries : carries mark name = true
      · simpa [allCarry, hcarries] using ih h
      · exact .inl (by simp [allCarry, hcarries])
    | other kind' =>
      cases h
      exact .inr rfl

theorem removeMark_of_names (h : firstOther? es = none) (mark : String) :
    ∃ es', removeMark mark es = .ok es' ∧ firstOther? es' = none ∧
      namedEntries es' = Weights.removeMark mark (namedEntries es) := by
  rw [removeMark, allCarry_of_names h, Weights.removeMark, Except.map]
  split
  · exact ⟨_, rfl, (firstOther?_map_dropMark mark es).trans h, namedEntries_map_dropMark mark es⟩
  · exact ⟨es, rfl, h, rfl⟩

/-- The marks of wrappers are removed from names as they are from the names of a state. -/
theorem removeMarks_of_names (h : firstOther? es = none) :
    ∃ es', removeMarks es = .ok es' ∧ firstOther? es' = none ∧
      namedEntries es' = Weights.removeMarks (namedEntries es) := by
  have hfold : ∀ (marks : List String) (es : List (Key × Loaded)), firstOther? es = none →
      ∃ es', marks.foldlM (fun es mark => removeMark mark es) es = .ok es' ∧ firstOther? es' = none ∧
        namedEntries es' = marks.foldl (fun s mark => Weights.removeMark mark s) (namedEntries es) := by
    intro marks
    induction marks with
    | nil => exact fun es h => ⟨es, rfl, h, rfl⟩
    | cons mark marks ih =>
      intro es h
      obtain ⟨es', hremove, hnames, hentries⟩ := removeMark_of_names h mark
      rw [List.foldlM_cons, hremove, List.foldl_cons, ← hentries]
      exact ih es' hnames
  exact hfold wrapperMarks es h

/-- A mark that a name lacks before the first key that is no name is removed from none. -/
theorem removeMark_of_lacking {mark : String} (h : allCarry mark es = .ok false) :
    removeMark mark es = .ok es := by
  rw [removeMark, h]
  rfl

theorem removeMarks_of_lacking (h : ∀ mark ∈ wrapperMarks, allCarry mark es = .ok false) :
    removeMarks es = .ok es := by
  unfold removeMarks
  generalize wrapperMarks = marks at h
  induction marks with
  | nil => rfl
  | cons mark marks ih =>
    rw [List.foldlM_cons, removeMark_of_lacking (h mark (List.mem_cons_self ..))]
    exact ih fun mark' hmark => h mark' (List.mem_cons_of_mem _ hmark)

/-- Names that all carry a mark lead up to the key that is no name. -/
theorem removeMarks_of_not_lacking (hother : firstOther? es = some kind)
    (h : ¬ ∀ mark ∈ wrapperMarks, allCarry mark es = .ok false) :
    removeMarks es = .error (Key.failure kind) := by
  unfold removeMarks
  generalize wrapperMarks = marks at h
  induction marks with
  | nil => exact absurd (fun mark hmark => by cases hmark) h
  | cons mark marks ih =>
    rw [List.foldlM_cons]
    rcases allCarry_of_other hother mark with hlacks | hfails
    · rw [removeMark_of_lacking hlacks]
      exact ih fun hrest => h (List.forall_mem_cons.2 ⟨hlacks, hrest⟩)
    · rw [removeMark, hfails]
      rfl

end

/-- What comes of a value that is kept in place of a state: one that counts as present is asked for its
keys, and one that does not is handed to the module as it is. -/
def misplacedFailure (inner : Loaded) : Failure :=
  match inner.present with
  | .error e => e
  | .ok true => ⟨.missingAttribute, "'" ++ inner.kindName ++ "' object has no attribute 'keys'"⟩
  | .ok false => inner.notDictLike

theorem stateEntries_of_no_table {inner : Loaded} (h : inner.entries? = none) :
    inner.stateEntries = .error inner.misplacedFailure := by
  rw [stateEntries, h, misplacedFailure]
  cases inner.present with
  | error e => rfl
  | ok b => cases b <;> rfl

theorem kind_of_present_error {v : Loaded} {e : Failure} (h : v.present = .error e) : e.kind = .runtime := by
  have htensor : ∀ t : Tensor, (Stored.tensor t).present = .error e → e.kind = .runtime := by
    intro t ht
    unfold Stored.present at ht
    dsimp only at ht
    split at ht <;> cases ht <;> rfl
  cases v with
  | value v =>
    cases v with
    | tensor t => exact htensor t h
    | _ => cases h
  | parameter t => exact htensor t h
  | table es => cases h

theorem kind_misplacedFailure (inner : Loaded) : inner.misplacedFailure.kind ≠ .own .weightLoading := by
  unfold misplacedFailure
  cases hpresent : inner.present with
  | error e => simp [kind_of_present_error hpresent]
  | ok b => cases b <;> simp [notDictLike, Failure.wrongType]

end Loaded

open Loaded

/-- As a library reads it, a file holds a state of given entries. -/
def Holds (reader : Reader) (path : String) (content : FileContent) (es : List (Key × Loaded)) : Prop :=
  ∃ v state, reader path content = .ok v ∧ v.state? = some state ∧ state.entries? = some es

/-- A single number of a module is offered an empty list under a name that is tried. All names are, unless
some key is no name: then those of the module itself are, if no mark of a wrapper leads up to the key. -/
inductive OffersEmptyList (l : Layout) (es : List (Key × Loaded)) : Prop
  | anyName (n : String × Nat) (hnames : firstOther? es = none) (hn : n ∈ l.names)
      (hstops : Stops l (Weights.removeMarks (namedEntries es)) n)
  | ownName (n : String × Nat) (kind : String) (hother : firstOther? es = some kind)
      (hlacks : ∀ mark ∈ wrapperMarks, allCarry mark es = .ok false) (hn : n ∈ l.ownNames)
      (hstops : Stops l (namedEntries es) n)

/-- The failures that are of another class than that of loading, where a library reads the file. -/
inductive StrayFailure (reader : Reader) (l : Layout) (path : String) (content : FileContent) :
    Failure → Prop
  | unread (r : ReadFailure) (hread : reader path content = .error r) (hclass : r.isExpected = false)
      (hown : r.failure.kind ≠ .own .weightLoading) : StrayFailure reader l path content r.failure
  | misplaced (v inner : Loaded) (hread : reader path content = .ok v) (hstate : v.state? = some inner)
      (hinner : inner.entries? = none) : StrayFailure reader l path content inner.misplacedFailure
  | unnamed (es : List (Key × Loaded)) (kind : String) (hholds : Holds reader path content es)
      (hother : firstOther? es = some kind) (hlist : ¬ OffersEmptyList l es) :
      StrayFailure reader l path content (Key.failure kind)
  | emptyList (es : List (Key × Loaded)) (hholds : Holds reader path content es)
      (hlist : OffersEmptyList l es) : StrayFailure reader l path content emptyListFailure

/-- Copying fails with another class than its own exactly if some name stops it. -/
theorem copyFrom_stray_iff (m : Module) (path : String) (state : Entries String Stored) (e : Failure) :
    ((m.copyFrom path state).2 = .error e ∧ e.kind ≠ .own .weightLoading) ↔
      (∃ n ∈ m.layout.names, Stops m.layout state n) ∧ e = emptyListFailure := by
  by_cases hstops : ∃ n ∈ m.layout.names, Stops m.layout state n
  · have hresult : (m.copyFrom path state).2 = .error emptyListFailure := by
      rw [Module.copyFrom, Copying.outcome, if_pos ((stopped_all_iff m).2 hstops)]
      rfl
    rw [hresult]
    constructor
    · rintro ⟨hfail, -⟩
      exact ⟨hstops, (Except.error.inj hfail).symm⟩
    · rintro ⟨-, rfl⟩
      exact ⟨rfl, by decide⟩
  · have hrun : ∀ n ∈ m.layout.names, ¬ Stops m.layout state n := fun n hn hstop => hstops ⟨n, hn, hstop⟩
    constructor
    · rintro ⟨hfail, hclass⟩
      by_cases hfits : Fits m.layout state
      · rw [copyFrom_of_fits m path hfits] at hfail
        split at hfail
        · cases hfail
        · cases hfail
          exact absurd rfl hclass
      · rw [copyFrom_of_not_fits m path hrun hfits] at hfail
        cases hfail
        exact absurd rfl hclass
    · rintro ⟨hstop, -⟩
      exact absurd hstop hstops

section
variable (m : Module) (path : String) {es : List (Key × Loaded)} {kind : String}

theorem copyEntries_of_names (h : firstOther? es = none) :
    m.copyEntries path es = m.copyFrom path (namedEntries es) := by
  rw [Module.copyEntries, h]

/-- A key that is no name stops copying, if an empty list under a name of the module itself does not. -/
theorem copyEntries_of_other (h : firstOther? es = some kind) :
    ((∃ n ∈ m.layout.ownNames, Stops m.layout (namedEntries es) n) ∧
      (m.copyEntries path es).2 = .error emptyListFailure) ∨
    ((¬ ∃ n ∈ m.layout.ownNames, Stops m.layout (namedEntries es) n) ∧
      (m.copyEntries path es).2 = .error (Key.failure kind)) := by
  have hstopped : (m.layout.ownNames.foldl (Copying.offer m.layout (namedEntries es))
      { copies := m.copies }).stopped = true ↔ ∃ n ∈ m.layout.ownNames, Stops m.layout (namedEntries es) n := by
    rw [Copying.stopped_foldl_iff]
    simp
  rw [← hstopped, Module.copyEntries, h]
  by_cases hc : (m.layout.ownNames.foldl (Copying.offer m.layout (namedEntries es))
      { copies := m.copies }).stopped = true
  · exact .inl ⟨hc, by simp [hc]⟩
  · exact .inr ⟨hc, by simp [hc]⟩

def outcomeOf (es : List (Key × Loaded)) : Except Failure Unit :=
  match Loaded.removeMarks es with
  | .error e => .error e
  | .ok es => (m.copyEntries path es).2

theorem outcomeOf_names_stray_iff (h : firstOther? es = none) (e : Failure) :
    (outcomeOf m path es = .error e ∧ e.kind ≠ .own .weightLoading) ↔
      OffersEmptyList m.layout es ∧ e = emptyListFailure := by
  obtain ⟨es', hremove, hnames, hentries⟩ := removeMarks_of_names h
  have hlist : OffersEmptyList m.layout es ↔
      ∃ n ∈ m.layout.names, Stops m.layout (Weights.removeMarks (namedEntries es)) n := by
    constructor
    · rintro (⟨n, -, hn, hstops⟩ | ⟨n, kind, hother, -, -, -⟩)
      · exact ⟨n, hn, hstops⟩
      · rw [h] at hother
        cases hother
    · rintro ⟨n, hn, hstops⟩
      exact .anyName n h hn hstops
  rw [outcomeOf, hremove, hlist, ← hentries]
  dsimp only
  rw [copyEntries_of_names m path hnames]
  exact copyFrom_stray_iff m path _ e

theorem outcomeOf_other (h : firstOther? es = some kind) :
    (OffersEmptyList m.layout es ∧ outcomeOf m path es = .error emptyListFailure) ∨
      (¬ OffersEmptyList m.layout es ∧ outcomeOf m path es = .error (Key.failure kind)) := by
  have hlist : OffersEmptyList m.layout es ↔ (∀ mark ∈ wrapperMarks, allCarry mark es = .ok false) ∧
      ∃ n ∈ m.layout.ownNames, Stops m.layout (namedEntries es) n := by
    constructor
    · rintro (⟨n, hnames, -, -⟩ | ⟨n, kind', -, hlacks, hn, hstops⟩)
      · rw [h] at hnames
        cases hnames
      · exact ⟨hlacks, n, hn, hstops⟩
    · rintro ⟨hlacks, n, hn, hstops⟩
      exact .ownName n kind h hlacks hn hstops
  rw [hlist, outcomeOf]
  by_cases hlacks : ∀ mark ∈ wrapperMarks, allCarry mark es = .ok false
  · rw [removeMarks_of_lacking hlacks]
    rcases copyEntries_of_other m path h with ⟨hstops, hresult⟩ | ⟨hstops, hresult⟩
    · exact .inl ⟨⟨hlacks, hstops⟩, hresult⟩
    · exact .inr ⟨fun hboth => hstops hboth.2, hresult⟩
  · rw [removeMarks_of_not_lacking h hlacks]
    exact .inr ⟨fun hboth => hlacks hboth.1, rfl⟩

end

namespace Store

variable {s : Store} {m : Module} {reader : Reader} {path : String} {content : FileContent}

theorem loadBy_of_unread (hm : s.attached = some m) {r : ReadFailure} (hread : reader path content = .error r) :
    (s.loadBy reader path content).2 = .error (unreadFailure path r) := by
  simp only [loadBy, hm, hread]

theorem loadBy_of_no_table (hm : s.attached = some m) {v : Loaded} (hread : reader path content = .ok v)
    (hv : v.state? = none) :
    (s.loadBy reader path content).2 = .error (.own .weightLoading ("Weights file " ++ Path.normalize path ++
      " does not contain a state dict")) := by
  simp only [loadBy, hm, hread, hv]

theorem loadBy_of_misplaced (hm : s.attached = some m) {v inner : Loaded}
    (hread : reader path content = .ok v) (hstate : v.state? = some inner) (hinner : inner.entries? = none) :
    s.loadBy reader path content = (s, .error inner.misplacedFailure) := by
  simp only [loadBy, hm, hread, hstate, stateEntries_of_no_table hinner]

theorem loadBy_of_holds (hm : s.attached = some m) {es : List (Key × Loaded)}
    (h : Holds reader path content es) :
    (s.loadBy reader path content).2 = outcomeOf m (Path.normalize path) es := by
  obtain ⟨v, state, hread, hstate, hes⟩ := h
  simp only [loadBy, hm, hread, hstate, Loaded.stateEntries, hes, outcomeOf]
  cases Loaded.removeMarks es with
  | error e => rfl
  | ok es' => rfl

/-- A failure of another class than that of loading is one of those that stray. -/
theorem strayFailure_of_loadBy (hm : s.attached = some m) {e : Failure}
    (hfail : (s.loadBy reader path content).2 = .error e) (hclass : e.kind ≠ .own .weightLoading) :
    StrayFailure reader m.layout path content e := by
  cases hread : reader path content with
  | error r =>
    rw [loadBy_of_unread hm hread, unreadFailure] at hfail
    split at hfail
    · cases hfail
      exact absurd rfl hclass
    · rename_i hexpected
      cases hfail
      exact .unread r hread (by simpa using hexpected) hclass
  | ok v =>
    cases hstate : v.state? with
    | none =>
      rw [loadBy_of_no_table hm hread hstate] at hfail
      cases hfail
      exact absurd rfl hclass
    | some state =>
      cases hentries : state.entries? with
      | none =>
        rw [loadBy_of_misplaced hm hread hstate hentries] at hfail
        cases hfail
        exact .misplaced v state hread hstate hentries
      | some es =>
        have hholds : Holds reader path content es := ⟨v, state, hread, hstate, hentries⟩
        rw [loadBy_of_holds hm hholds] at hfail
        cases hother : firstOther? es with
        | none =>
          obtain ⟨hlist, rfl⟩ := (outcomeOf_names_stray_iff m _ hother e).1 ⟨hfail, hclass⟩
          exact .emptyList es hholds hlist
        | some kind =>
          rcases outcomeOf_other m (Path.normalize path) hother with ⟨hlist, hresult⟩ | ⟨hlist, hresult⟩
          · cases hresult.symm.trans hfail
            exact .emptyList es hholds hlist
          · cases hresult.symm.trans hfail
            exact .unnamed es kind hholds hother hlist

/-- Those that stray do come of loading, and are of another class. -/
theorem loadBy_of_strayFailure (hm : s.attached = some m) {e : Failure}
    (h : StrayFailure reader m.layout path content e) :
    (s.loadBy reader path content).2 = .error e ∧ e.kind ≠ .own .weightLoading := by
  cases h with
  | unread r hread hclass hown =>
    rw [loadBy_of_unread hm hread, unreadFailure, hclass]
    exact ⟨rfl, hown⟩
  | misplaced v inner hread hstate hinner =>
    rw [loadBy_of_misplaced hm hread hstate hinner]
    exact ⟨rfl, kind_misplacedFailure inner⟩
  | unnamed es kind hholds hother hlist =>
    rw [loadBy_of_holds hm hholds]
    obtain ⟨hoffers, -⟩ | ⟨-, hresult⟩ := outcomeOf_other m (Path.normalize path) hother
    · exact absurd hoffers hlist
    · exact ⟨hresult, Key.kind_failure kind⟩
  | emptyList es hholds hlist =>
    rw [loadBy_of_holds hm hholds]
    cases hother : firstOther? es with
    | none => exact (outcomeOf_names_stray_iff m _ hother _).2 ⟨hlist, rfl⟩
    | some kind =>
      obtain ⟨-, hresult⟩ | ⟨hoffers, -⟩ := outcomeOf_other m (Path.normalize path) hother
      · exact ⟨hresult, by decide⟩
      · exact absurd hlist hoffers

/-- Whatever library reads the file, loading into a module fails with another class than its own exactly in
one of four ways: the library fails with a class that is not expected, the file keeps what is no table under
the key of the state, a key of the state is no name, or a single number of the module is offered an empty
list. -/
theorem loadBy_stray_iff (hm : s.attached = some m) (reader : Reader) (path : String) (content : FileContent)
    (e : Failure) :
    ((s.loadBy reader path content).2 = .error e ∧ e.kind ≠ .own .weightLoading) ↔
      StrayFailure reader m.layout path content e :=
  ⟨fun h => strayFailure_of_loadBy hm h.1 h.2, loadBy_of_strayFailure hm⟩

theorem loadBy_of_named (hm : s.attached = some m) {v state : Loaded} {es : Entries String Stored}
    (hread : reader path content = .ok v) (hstate : v.state? = some state)
    (hes : state.entries? = some (named es)) :
    s.loadBy reader path content =
      ({ s with attached := some (m.copyFrom (Path.normalize path) (Weights.removeMarks es)).1 },
        (m.copyFrom (Path.normalize path) (Weights.removeMarks es)).2) := by
  obtain ⟨es', hremove, hnames, hentries⟩ := removeMarks_of_names (firstOther?_named es)
  rw [namedEntries_named] at hentries
  simp only [loadBy, hm, hread, hstate, Loaded.stateEntries, hes, hremove,
    copyEntries_of_names m (Path.normalize path) hnames, hentries]

/-- What is kept in place of a state is read as itself, if it is read at all, and loading fails all the same. -/
theorem load_of_misplaced (hm : s.attached = some m) {v inner : Stored} {fs : Entries String Stored}
    (hlisted : (listed path v).entries? = some fs) (hkey : Entries.get? stateKey fs = some inner)
    (hinner : inner.entries? = none) :
    s.load path (.stored v) = (s, .error (Loaded.value inner).misplacedFailure) := by
  have hunwrapped : unwrapped fs = inner := by simp [unwrapped, hkey]
  have hnormal := readState_stored hlisted
  have hpresent : (Loaded.value inner).present = inner.present := rfl
  rw [normalizedState, hunwrapped] at hnormal
  simp only [load, hm, hnormal, hinner, misplacedFailure, hpresent]
  cases inner.present with
  | error e => rfl
  | ok b =>
    cases b
    · simp only [hinner]
      rfl
    · rfl

/-- Where the content of files is given as what is stored in them, loading is loading with a reader of it. -/
theorem loadBy_storedReader (s : Store) (path : String) (content : FileContent) :
    s.loadBy storedReader path content = s.load path content := by
  cases hm : s.attached with
  | none => simp [loadBy, load, hm]
  | some m =>
    cases content with
    | stored v =>
      have hread : storedReader path (.stored v) = .ok (.value (listed path v)) := rfl
      cases hlisted : (listed path v).entries? with
      | none => simp [loadBy, load, hm, hread, readState_of_not_table hlisted, state?, Loaded.entries?, hlisted]
      | some fs =>
        have hstate : (Loaded.value (listed path v)).state? =
            some (((Entries.get? stateKey fs).map .value).getD (.value (listed path v))) := by
          simp [state?, Loaded.entries?, hlisted, get?_named]
        have hnormal := readState_stored hlisted
        cases hkey : Entries.get? stateKey fs with
        | none =>
          rw [hkey] at hstate
          rw [normalizedState_of_plain hkey] at hnormal
          rw [load_of_table hm hnormal]
          exact loadBy_of_named hm hread hstate (by simp [Loaded.entries?, hlisted])
        | some inner =>
          rw [hkey] at hstate
          cases hinner : inner.entries? with
          | some es =>
            rw [normalizedState_of_wrapped hkey hinner] at hnormal
            rw [load_of_table hm hnormal]
            exact loadBy_of_named hm hread hstate (by simp [Loaded.entries?, hinner])
          | none =>
            rw [load_of_misplaced hm hlisted hkey hinner]
            exact loadBy_of_misplaced hm hread hstate (by simp [Loaded.entries?, hinner])
    | _ =>
      simp only [loadBy, load, hm]
      rfl

end Store

/-- A file that keeps an empty list under the key of the state. -/
def keptList : Stored := .plain (.obj [(stateKey, .arr [])])

theorem load_of_keptList :
    (Store.loadBy storedReader { attached := some (.zero tiedLayout) } "w.bin" (.stored keptList)).2 =
      .error (.wrongType "Expected state_dict to be dict-like, got <class 'list'>.") ∧
    FailureClass.wrongType ≠ .own .weightLoading :=
  (Store.loadBy_stray_iff (s := { attached := some (.zero tiedLayout) }) rfl storedReader "w.bin"
    (.stored keptList) _).2 (.misplaced (.value keptList) (.value (.plain (.arr []))) rfl rfl rfl)

end SequenceClassification.Weights
