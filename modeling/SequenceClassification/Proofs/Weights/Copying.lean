import SequenceClassification.Proofs.Lookup
import SequenceClassification.Weights.Module

/-!
A run of copying, name by name. A step either copies what suits the slot, or notes a value that does not
fit, or stops at a list of no numbers offered to a single number, or passes over a name that the state
lacks. Over a whole run a slot ends with what the last name of its that brings anything brings, and the
notes are those of the names whose values do not fit, in order.
-/
namespace SequenceClassification.Weights

/-- What a slot takes from a stored value: all elements of a tensor of its own shape; a single number also
takes the first element of a list of numbers. -/
inductive Suits (slot : Slot) : Stored → List Float32 → Prop
  | sameShape (t : Tensor) (hshape : t.shape = slot.shape) :
      Suits slot (.tensor t) (t.values.map Float.toFloat32)
  | firstOfList (t : Tensor) (x : Float) (rest : List Float) (hslot : slot.shape = [])
      (hlist : t.shape.length = 1) (hvalues : t.values = x :: rest) :
      Suits slot (.tensor t) [x.toFloat32]

/-- A single number is offered a list of no numbers. -/
def OffersNothing (slot : Slot) (v : Stored) : Prop :=
  ∃ t, v = .tensor t ∧ slot.shape = [] ∧ t.shape.length = 1 ∧ t.values = []

theorem fit_eq_copied_iff (name : String) (slot : Slot) (v : Stored) (values : List Float32) :
    fit name slot v = .copied values ↔ Suits slot v values := by
  constructor
  · intro h
    cases v with
    | plain _ => simp [fit] at h
    | table _ => simp [fit] at h
    | other _ _ _ => simp [fit] at h
    | tensor t =>
      simp only [fit, Bool.and_eq_true, List.isEmpty_iff, beq_iff_eq] at h
      split at h
      · rename_i hs
        split at h
        · cases h
        · rename_i x rest hvalues
          cases h
          exact .firstOfList t x rest hs.1 hs.2 hvalues
      · split at h
        · rename_i hshape
          cases h
          exact .sameShape t hshape
        · cases h
  · intro h
    cases h with
    | sameShape t hshape =>
      have hne : ¬ (slot.shape = [] ∧ slot.shape.length = 1) := by
        rintro ⟨hs, hl⟩
        simp [hs] at hl
      simp only [fit, Bool.and_eq_true, List.isEmpty_iff, beq_iff_eq, hshape, hne, if_false, if_true]
    | firstOfList t x rest hslot hlist hvalues =>
      simp [fit, hslot, hlist, hvalues]

theorem fit_eq_emptyScalar_iff (name : String) (slot : Slot) (v : Stored) :
    fit name slot v = .emptyScalar ↔ OffersNothing slot v := by
  constructor
  · intro h
    cases v with
    | plain _ => simp [fit] at h
    | table _ => simp [fit] at h
    | other _ _ _ => simp [fit] at h
    | tensor t =>
      simp only [fit, Bool.and_eq_true, List.isEmpty_iff, beq_iff_eq] at h
      split at h
      · rename_i hs
        split at h
        · rename_i hvalues
          exact ⟨t, rfl, hs.1, hs.2, hvalues⟩
        · cases h
      · split at h <;> cases h
  · rintro ⟨t, rfl, hslot, hlist, hvalues⟩
    simp [fit, hslot, hlist, hvalues]

/-- The note that a value leaves if it does not fit. -/
def Fit.note? : Fit → Option String
  | .unfit note => some note
  | _ => none

section
variable (l : Layout) (state : Entries String Stored) (n : String × Nat)

/-- What comes of a name, if the state holds it. -/
def verdict : Option Fit := (Entries.get? n.1 state).map (fit n.1 (l.slot n.2))

/-- A name brings values: what the state holds under it suits its slot. -/
def Brings (values : List Float32) : Prop :=
  ∃ v, Entries.get? n.1 state = some v ∧ Suits (l.slot n.2) v values

/-- A name stops copying: the state offers nothing to a single number under it. -/
def Stops : Prop := ∃ v, Entries.get? n.1 state = some v ∧ OffersNothing (l.slot n.2) v

/-- The note on a name, if the state holds something under it that does not fit. -/
def noteOf : Option String := (verdict l state n).bind Fit.note?

end

variable {l : Layout} {state : Entries String Stored} {n : String × Nat}

theorem brings_iff {values : List Float32} :
    Brings l state n values ↔ verdict l state n = some (.copied values) := by
  simp [Brings, verdict, fit_eq_copied_iff]

theorem stops_iff : Stops l state n ↔ verdict l state n = some .emptyScalar := by
  simp [Stops, verdict, fit_eq_emptyScalar_iff]

/-- A name that is held and leaves no note brings values or stops copying. -/
theorem brings_or_stops {v : Stored} (hv : Entries.get? n.1 state = some v)
    (hnote : noteOf l state n = none) : (∃ values, Brings l state n values) ∨ Stops l state n := by
  have hverdict : verdict l state n = some (fit n.1 (l.slot n.2) v) := by simp [verdict, hv]
  simp only [brings_iff, stops_iff]
  simp only [noteOf, hverdict] at hnote ⊢
  cases hfit : fit n.1 (l.slot n.2) v with
  | copied values => exact Or.inl ⟨values, rfl⟩
  | unfit note => simp [hfit, Fit.note?] at hnote
  | emptyScalar => exact Or.inr rfl

theorem noteOf_of_brings {values : List Float32} (h : Brings l state n values) :
    noteOf l state n = none := by
  simp [noteOf, brings_iff.1 h, Fit.note?]

namespace Copying

theorem offer_of_stopped {c : Copying} (hc : c.stopped = true) : c.offer l state n = c := by
  simp [offer, hc]

/-- What a step does, as the verdict on the name says. -/
theorem offer_eq {c : Copying} (hc : c.stopped = false) :
    c.offer l state n = match verdict l state n with
      | some (.copied values) => { c with copies := c.copies.set n.2 (some values) }
      | some (.unfit note) => { c with notes := c.notes ++ [note] }
      | some .emptyScalar => { c with stopped := true }
      | none => c := by
  unfold offer verdict
  rw [if_neg (by simp [hc])]
  cases Entries.get? n.1 state with
  | none => rfl
  | some v =>
    simp only [Option.map_some]
    cases fit n.1 (l.slot n.2) v <;> rfl

theorem stopped_offer_iff {c : Copying} (hc : c.stopped = false) :
    (c.offer l state n).stopped = true ↔ Stops l state n := by
  rw [offer_eq hc, stops_iff]
  split <;> simp_all

theorem notes_offer {c : Copying} (hc : c.stopped = false) :
    (c.offer l state n).notes = c.notes ++ (noteOf l state n).toList := by
  rw [offer_eq hc, noteOf]
  split <;> simp_all [Fit.note?]

theorem copies_offer_of_brings {c : Copying} {values : List Float32} (hc : c.stopped = false)
    (h : Brings l state n values) :
    (c.offer l state n).copies = c.copies.set n.2 (some values) := by
  rw [offer_eq hc, brings_iff.1 h]

theorem copies_offer_of_not_brings {c : Copying} (h : ∀ values, ¬ Brings l state n values) :
    (c.offer l state n).copies = c.copies := by
  by_cases hc : c.stopped = true
  · rw [offer_of_stopped hc]
  · rw [offer_eq (by simpa using hc)]
    split
    · rename_i values hverdict
      exact absurd (brings_iff.2 hverdict) (h values)
    · rfl
    · rfl
    · rfl

/-- Copying stops exactly at a name that stops it. -/
theorem stopped_foldl_iff (ns : List (String × Nat)) (c : Copying) :
    (ns.foldl (offer l state) c).stopped = true ↔
      c.stopped = true ∨ ∃ n ∈ ns, Stops l state n := by
  induction ns generalizing c with
  | nil => simp
  | cons n ns ih =>
    rw [List.foldl_cons, ih]
    by_cases hc : c.stopped = true
    · simp [offer_of_stopped hc, hc]
    · simp [stopped_offer_iff (by simpa using hc), hc]

theorem length_foldl (ns : List (String × Nat)) (c : Copying) :
    (ns.foldl (offer l state) c).copies.length = c.copies.length := by
  induction ns generalizing c with
  | nil => rfl
  | cons n ns ih => rw [List.foldl_cons, ih, length_offer]

/-- Names that stop nothing leave their notes in order. -/
theorem notes_foldl (ns : List (String × Nat)) {c : Copying} (hc : c.stopped = false)
    (hns : ∀ n ∈ ns, ¬ Stops l state n) :
    (ns.foldl (offer l state) c).notes = c.notes ++ ns.filterMap (noteOf l state) := by
  induction ns generalizing c with
  | nil => simp
  | cons n ns ih =>
    have hn : ¬ Stops l state n := hns n (List.mem_cons_self ..)
    have hstopped : (c.offer l state n).stopped = false := by
      rw [← Bool.not_eq_true, stopped_offer_iff hc]
      exact hn
    rw [List.foldl_cons, ih hstopped fun n' h => hns n' (List.mem_cons_of_mem _ h), notes_offer hc,
      List.filterMap_cons]
    cases noteOf l state n <;> simp

/-- A slot to which no name brings anything is left alone. -/
theorem getElem?_foldl_of_not_brings (ns : List (String × Nat)) (c : Copying) (i : Nat)
    (hns : ∀ n ∈ ns, n.2 = i → ∀ values, ¬ Brings l state n values) :
    (ns.foldl (offer l state) c).copies[i]? = c.copies[i]? := by
  induction ns generalizing c with
  | nil => rfl
  | cons n ns ih =>
    rw [List.foldl_cons, ih _ fun n' h => hns n' (List.mem_cons_of_mem _ h)]
    by_cases hi : n.2 = i
    · rw [copies_offer_of_not_brings (hns n (List.mem_cons_self ..) hi)]
    · exact getElem?_offer_of_ne (Ne.symm hi)

/-- A slot holds what the last name of its that brings anything brings. -/
theorem getElem?_foldl_of_last {pre post : List (String × Nat)} {c : Copying}
    {values : List Float32} (hc : c.stopped = false) (hpre : ∀ n' ∈ pre, ¬ Stops l state n')
    (hslot : n.2 < c.copies.length) (hn : Brings l state n values)
    (hpost : ∀ n' ∈ post, n'.2 = n.2 → ∀ values', ¬ Brings l state n' values') :
    ((pre ++ n :: post).foldl (offer l state) c).copies[n.2]? = some (some values) := by
  -- what comes after the name leaves the slot alone, and what came before it is overwritten
  rw [List.foldl_append, List.foldl_cons, getElem?_foldl_of_not_brings post _ _ hpost]
  have hbefore : (pre.foldl (offer l state) c).stopped = false := by
    rw [← Bool.not_eq_true, stopped_foldl_iff]
    rintro (h | ⟨n', h, hs⟩)
    · simp [hc] at h
    · exact hpre n' h hs
  have hlen : n.2 < (pre.foldl (offer l state) c).copies.length := by rwa [length_foldl]
  rw [copies_offer_of_brings hbefore hn]
  simp [hlen]

end Copying

end SequenceClassification.Weights
