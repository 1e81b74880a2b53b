import SequenceClassification.Proofs.Weights.Copying
import SequenceClassification.Weights.Store

/-!
Which states a module accepts. A state fits if everything it holds under a name of the module suits the
slot of the name, and it covers a name if it holds that name or another one of the same slot. Main
statement: a state is accepted exactly if it fits and covers every name; a state that does not fit is
refused for that, and one that fits is refused for the names that it does not cover.
-/
namespace SequenceClassification.Weights

/-- Everything that the state holds under a name of the layout suits its slot. -/
def Fits (l : Layout) (state : Entries String Stored) : Prop :=
  ∀ n ∈ l.names, ∀ v, Entries.get? n.1 state = some v → ∃ values, Suits (l.slot n.2) v values

/-- Whether a slot can take anything from a stored value. -/
def suitable (slot : Slot) : Stored → Bool
  | .tensor t => t.shape == slot.shape ||
      (slot.shape.isEmpty && t.shape.length == 1 && !t.values.isEmpty)
  | _ => false

theorem suitable_iff (slot : Slot) (v : Stored) :
    suitable slot v = true ↔ ∃ values, Suits slot v values := by
  constructor
  · intro h
    cases v with
    | plain _ => simp [suitable] at h
    | table _ => simp [suitable] at h
    | other _ _ _ => simp [suitable] at h
    | tensor t =>
      simp only [suitable, Bool.or_eq_true, Bool.and_eq_true, beq_iff_eq, List.isEmpty_iff] at h
      rcases h with hshape | ⟨⟨hslot, hlist⟩, hvalues⟩
      · exact ⟨_, .sameShape t hshape⟩
      · obtain ⟨x, rest, heq⟩ := List.exists_cons_of_ne_nil (by simpa using hvalues)
        exact ⟨_, .firstOfList t x rest hslot hlist heq⟩
  · rintro ⟨values, hsuits⟩
    cases hsuits with
    | sameShape t hshape => simp [suitable, hshape]
    | firstOfList t x rest hslot hlist hvalues => simp [suitable, hslot, hlist, hvalues]

theorem fits_iff (l : Layout) (state : Entries String Stored) :
    Fits l state ↔ ∀ n ∈ l.names, (Entries.get? n.1 state).all (suitable (l.slot n.2)) = true := by
  simp only [Fits, ← suitable_iff, Option.all_eq_true]

instance (l : Layout) (state : Entries String Stored) : Decidable (Fits l state) :=
  decidable_of_iff _ (fits_iff l state).symm

/-- The state holds a name of the slot that the name points to, be it that name or another one. -/
def Covers (l : Layout) (state : Entries String Stored) (n : String × Nat) : Prop :=
  ∃ n' ∈ l.names, n'.2 = n.2 ∧ Entries.has n'.1 state = true

instance (l : Layout) (state : Entries String Stored) (n : String × Nat) :
    Decidable (Covers l state n) := by
  unfold Covers
  infer_instance

/-- The names that the state does not cover, in module order. -/
def uncoveredNames (l : Layout) (state : Entries String Stored) : List String :=
  (l.names.filter fun n => ¬ Covers l state n).map Prod.fst

variable {l : Layout} {state : Entries String Stored}

theorem uncoveredNames_eq_nil_iff :
    uncoveredNames l state = [] ↔ ∀ n ∈ l.names, Covers l state n := by
  simp [uncoveredNames]

/-- Where slots have elements, the missing names are those that are not covered. -/
theorem missingNames_eq_uncoveredNames (hsize : ∀ n ∈ l.names, (l.slot n.2).size ≠ 0) :
    missingNames l state = uncoveredNames l state := by
  refine congrArg (List.map Prod.fst) (List.filter_congr fun n hn => ?_)
  have hreached : l.storage n.2 ∈ namedStorages l state ↔ Covers l state n := by
    simp only [namedStorages, List.mem_map, List.mem_filter]
    constructor
    · rintro ⟨n', ⟨hn', hhas⟩, hstorage⟩
      exact ⟨n', hn', Layout.storage_inj (hsize n' hn') hstorage, hhas⟩
    · rintro ⟨n', hn', hslot, hhas⟩
      exact ⟨n', ⟨hn', hhas⟩, by rw [hslot]⟩
  have hown : Entries.has n.1 state = true → Covers l state n := fun hhas => ⟨n, hn, rfl, hhas⟩
  by_cases hcovers : Covers l state n
  · simp [hcovers, hreached.2 hcovers]
  · have hlacks : Entries.has n.1 state = false := by simpa using mt hown hcovers
    simp [hcovers, hlacks, mt hreached.1 hcovers]

theorem Fits.not_stops (h : Fits l state) : ∀ n ∈ l.names, ¬ Stops l state n := by
  rintro n hn ⟨v, hv, hnothing⟩
  obtain ⟨values, hsuits⟩ := h n hn v hv
  have hcopied := (fit_eq_copied_iff n.1 _ _ _).2 hsuits
  rw [(fit_eq_emptyScalar_iff n.1 _ _).2 hnothing] at hcopied
  cases hcopied

/-- Unless a name stops copying, a state that leaves no note fits. -/
theorem notes_eq_nil_iff (hstops : ∀ n ∈ l.names, ¬ Stops l state n) :
    l.names.filterMap (noteOf l state) = [] ↔ Fits l state := by
  rw [List.filterMap_eq_nil_iff]
  constructor
  · intro hnotes n hn v hv
    rcases brings_or_stops hv (hnotes n hn) with ⟨values, v', hv', hsuits⟩ | hstop
    · rw [hv] at hv'
      cases hv'
      exact ⟨values, hsuits⟩
    · exact absurd hstop (hstops n hn)
  · intro hfits n hn
    cases hv : Entries.get? n.1 state with
    | none => simp [noteOf, verdict, hv]
    | some v =>
      obtain ⟨values, hsuits⟩ := hfits n hn v hv
      exact noteOf_of_brings ⟨v, hv, hsuits⟩

section
variable (m : Module) (path : String)

theorem stopped_all_iff :
    (Copying.all m state).stopped = true ↔ ∃ n ∈ m.layout.names, Stops m.layout state n := by
  simp [Copying.all, Copying.stopped_foldl_iff]

theorem notes_all (hstops : ∀ n ∈ m.layout.names, ¬ Stops m.layout state n) :
    (Copying.all m state).notes = m.layout.names.filterMap (noteOf m.layout state) := by
  simpa [Copying.all] using Copying.notes_foldl m.layout.names (c := { copies := m.copies }) rfl hstops

/-- A state that does not fit is refused with its notes, whatever else is missing. -/
theorem copyFrom_of_not_fits (hstops : ∀ n ∈ m.layout.names, ¬ Stops m.layout state n)
    (hfits : ¬ Fits m.layout state) :
    (m.copyFrom path state).2 = .error (.own .weightLoading ("Weights in " ++ path ++
      " do not fit the model: Error(s) in loading state_dict for " ++ m.layout.className ++ ":\n\t" ++
      "\n\t".intercalate (m.layout.names.filterMap (noteOf m.layout state)))) := by
  have hrun : ¬ (Copying.all m state).stopped = true := by
    rw [stopped_all_iff]
    rintro ⟨n, hn, hstop⟩
    exact hstops n hn hstop
  have hnotes : (m.layout.names.filterMap (noteOf m.layout state)).isEmpty = false := by
    rw [← Bool.not_eq_true, List.isEmpty_iff, notes_eq_nil_iff hstops]
    exact hfits
  simp only [Module.copyFrom, Copying.outcome, hrun, notes_all m hstops, hnotes, Bool.not_false,
    if_true, if_false, Bool.false_eq_true]

/-- A state that fits is refused only for missing names. -/
theorem copyFrom_of_fits (hfits : Fits m.layout state) :
    (m.copyFrom path state).2 = if missingNames m.layout state = [] then .ok () else
      .error (.own .weightLoading ("Weights in " ++ path ++ " are missing " ++
        toString (missingNames m.layout state).length ++ " tensors, e.g. " ++
        Text.bracketed (((missingNames m.layout state).take 5).map Text.quoted))) := by
  have hrun : ¬ (Copying.all m state).stopped = true := by
    rw [stopped_all_iff]
    rintro ⟨n, hn, hstop⟩
    exact hfits.not_stops n hn hstop
  have hnotes := (notes_eq_nil_iff hfits.not_stops).2 hfits
  simp [Module.copyFrom, Copying.outcome, hrun, notes_all m hfits.not_stops, hnotes, shownNames]

/-- A state is accepted exactly if it fits and no name is missing. -/
theorem copyFrom_eq_ok_iff :
    (m.copyFrom path state).2 = .ok () ↔ Fits m.layout state ∧ missingNames m.layout state = [] := by
  by_cases hstops : ∀ n ∈ m.layout.names, ¬ Stops m.layout state n
  · by_cases hfits : Fits m.layout state
    · rw [copyFrom_of_fits m path hfits]
      by_cases hmissing : missingNames m.layout state = [] <;> simp [hfits, hmissing]
    · simp [copyFrom_of_not_fits m path hstops hfits, hfits]
  · have hfits : ¬ Fits m.layout state := fun h => hstops h.not_stops
    have hrun : (Copying.all m state).stopped = true := by
      rw [stopped_all_iff]
      simpa using hstops
    simp [Module.copyFrom, Copying.outcome, hrun, hfits]

end

namespace Store

/-- Loading a readable table into an attached module is copying its entries. -/
theorem load_of_entries {s : Store} {m : Module} {path : String} {content : FileContent}
    {state : Stored} {entries : Entries String Stored} (hm : s.attached = some m)
    (hread : readState path content = .ok state) (htable : state.entries? = some entries) :
    s.load path content = ({ s with attached := some (m.copyFrom (Path.normalize path) entries).1 },
      (m.copyFrom (Path.normalize path) entries).2) := by
  simp [load, hm, hread, htable]

/-- Loading succeeds exactly if every entry under a name of the module suits its slot and every name is
covered. A state that fits is refused for the names that it does not cover, of which the first five are
shown; one that does not fit is refused for that, whatever else is missing. -/
theorem load_acceptance {s : Store} {m : Module} {path : String} {content : FileContent}
    {state : Stored} {entries : Entries String Stored} (hm : s.attached = some m)
    (hsize : ∀ n ∈ m.layout.names, (m.layout.slot n.2).size ≠ 0)
    (hread : readState path content = .ok state) (htable : state.entries? = some entries) :
    ((s.load path content).2 = .ok () ↔
      Fits m.layout entries ∧ ∀ n ∈ m.layout.names, Covers m.layout entries n) ∧
    (Fits m.layout entries → (¬ ∀ n ∈ m.layout.names, Covers m.layout entries n) →
      (s.load path content).2 = .error (.own .weightLoading ("Weights in " ++ Path.normalize path ++
        " are missing " ++ toString (uncoveredNames m.layout entries).length ++ " tensors, e.g. " ++
        Text.bracketed (((uncoveredNames m.layout entries).take 5).map Text.quoted)))) ∧
    (¬ Fits m.layout entries → (∀ n ∈ m.layout.names, ¬ Stops m.layout entries n) →
      (s.load path content).2 = .error (.own .weightLoading ("Weights in " ++ Path.normalize path ++
        " do not fit the model: Error(s) in loading state_dict for " ++ m.layout.className ++
        ":\n\t" ++ "\n\t".intercalate (m.layout.names.filterMap (noteOf m.layout entries))))) := by
  have hmissing : missingNames m.layout entries = uncoveredNames m.layout entries :=
    missingNames_eq_uncoveredNames hsize
  rw [load_of_entries hm hread htable]
  refine ⟨?_, ?_, ?_⟩
  · rw [copyFrom_eq_ok_iff, hmissing, uncoveredNames_eq_nil_iff]
  · intro hfits hcovers
    have hsome : uncoveredNames m.layout entries ≠ [] := mt uncoveredNames_eq_nil_iff.1 hcovers
    rw [copyFrom_of_fits m _ hfits, hmissing, if_neg hsome]
  · intro hfits hstops
    exact copyFrom_of_not_fits m _ hstops hfits

end Store

/-- A module of two tensors and three names: two names stand for the first tensor. -/
def tiedLayout : Layout where
  className := "Net"
  slots := [⟨[2], true⟩, ⟨[1], true⟩]
  names := [("table", 0), ("bias", 1), ("head", 0)]

theorem load_acceptance_of_tied_name :
    (∀ n ∈ tiedLayout.names, (tiedLayout.slot n.2).size ≠ 0) ∧
    readState "w.bin" (.stored (.table [("module.head", .tensor ⟨[2], [3, 4]⟩)])) =
      .ok (.table [("head", .tensor ⟨[2], [3, 4]⟩)]) ∧
    (Store.load { attached := some (.zero tiedLayout) } "w.bin"
      (.stored (.table [("module.head", .tensor ⟨[2], [3, 4]⟩)]))).2 =
      .error (.own .weightLoading "Weights in w.bin are missing 1 tensors, e.g. ['bias']") := by
  have hsize : ∀ n ∈ tiedLayout.names, (tiedLayout.slot n.2).size ≠ 0 := by decide
  have hread : readState "w.bin" (.stored (.table [("module.head", .tensor ⟨[2], [3, 4]⟩)])) =
      .ok (.table [("head", .tensor ⟨[2], [3, 4]⟩)]) := by rfl
  have haccept := Store.load_acceptance (s := { attached := some (.zero tiedLayout) }) rfl hsize hread rfl
  have hfits : Fits tiedLayout [("head", .tensor ⟨[2], [3, 4]⟩)] := by decide
  have hcovers : ¬ ∀ n ∈ tiedLayout.names, Covers tiedLayout [("head", .tensor ⟨[2], [3, 4]⟩)] n := by
    decide
  exact ⟨hsize, hread, haccept.2.1 hfits hcovers⟩

end SequenceClassification.Weights
