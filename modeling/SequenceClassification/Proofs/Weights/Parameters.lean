import Mathlib.Algebra.BigOperators.Fin
import SequenceClassification.Proofs.Lookup
import SequenceClassification.Proofs.Sorting
import SequenceClassification.Weights.Layout

/-!
The learned elements of a module. What is counted are the learned tensors that the names stand for; and in a
layout that is built from its parts every name stands for a tensor and every tensor has a name, however deep
in the module. Main statement: each of them counts once, with the product of its shape.
-/
namespace SequenceClassification.Weights

theorem elements_eq_prod (shape : List Nat) : elements shape = shape.prod := List.prod_eq_foldl.symm

namespace Layout

/-- Every name points to a slot and every slot has a name. -/
structure Complete (l : Layout) : Prop where
  wellFormed : l.WellFormed
  named : ∀ i < l.slots.length, ∃ n ∈ l.names, n.2 = i

/-- The learned slots that names stand for. -/
def learnedSlots (l : Layout) : Finset Nat :=
  (l.names.map Prod.snd).toFinset.filter fun i => (l.slot i).learned = true

theorem mem_learnedSlots_iff {l : Layout} {i : Nat} :
    i ∈ l.learnedSlots ↔ (l.slot i).learned = true ∧ ∃ name, (name, i) ∈ l.names := by
  simp [learnedSlots, and_comm]

/-- The learned slots of a complete layout are all that are learned. -/
theorem Complete.mem_learnedSlots_iff {l : Layout} (h : l.Complete) {i : Nat} :
    i ∈ l.learnedSlots ↔ i < l.slots.length ∧ (l.slot i).learned = true := by
  rw [Layout.mem_learnedSlots_iff]
  constructor
  · rintro ⟨hlearned, name, hn⟩
    exact ⟨h.wellFormed _ hn, hlearned⟩
  · rintro ⟨hi, hlearned⟩
    obtain ⟨⟨name, j⟩, hn, rfl⟩ := h.named i hi
    exact ⟨hlearned, name, hn⟩

section
variable (l : Layout) (seen : List Nat) (names : List (String × Nat))

theorem mem_learnedFrom_iff {i : Nat} : i ∈ l.learnedFrom seen names ↔
    (l.slot i).learned = true ∧ i ∉ seen ∧ ∃ name, (name, i) ∈ names := by
  induction names generalizing seen with
  | nil => simp [learnedFrom]
  | cons n rest ih =>
    obtain ⟨name, j⟩ := n
    rw [learnedFrom]
    split
    · rename_i hj
      rw [Bool.and_eq_true, Bool.not_eq_true', List.contains_eq_mem, decide_eq_false_iff_not] at hj
      rw [List.mem_cons, ih]
      by_cases hij : i = j
      · subst hij
        exact iff_of_true (.inl rfl) ⟨hj.1, hj.2, name, List.mem_cons_self⟩
      · simp [hij]
    · rename_i hj
      rw [ih]
      by_cases hij : i = j
      · subst hij
        simp_all
      · simp [hij]

theorem nodup_learnedFrom : (l.learnedFrom seen names).Nodup := by
  induction names generalizing seen with
  | nil => exact List.nodup_nil
  | cons n rest ih =>
    rw [learnedFrom]
    split
    · refine List.nodup_cons.2 ⟨fun hmem => ?_, ih _⟩
      exact ((mem_learnedFrom_iff l _ rest).1 hmem).2.1 List.mem_cons_self
    · exact ih seen

end

/-- Each learned slot counts once, whatever its names, with the product of its shape. -/
theorem learnedElements_eq_sum (l : Layout) :
    l.learnedElements = ∑ i ∈ l.learnedSlots, (l.slot i).shape.prod := by
  have hslots : l.learnedSlots = (l.learnedFrom [] l.names).toFinset := by
    ext i
    simp [mem_learnedSlots_iff, mem_learnedFrom_iff]
  rw [hslots, List.sum_toFinset _ (nodup_learnedFrom l [] l.names), List.sum_eq_foldr, List.foldr_map,
    learnedElements]
  simp only [Slot.size, elements_eq_prod]

end Layout

namespace Registration

variable {rs : List Registration}

theorem mem_inside_iff {part : List Char} {r : Registration} : r ∈ inside part rs ↔
    ∃ s ∈ rs, s.isInner = true ∧ s.path.head? = some part ∧ { s with path := s.path.tail } = r := by
  simp only [inside, List.mem_filterMap, Option.ite_none_right_eq_some, Bool.and_eq_true, beq_iff_eq,
    Option.some.injEq, and_assoc]

theorem mem_parts_iff {part : List Char} :
    part ∈ parts rs ↔ ∃ s ∈ rs, s.isInner = true ∧ s.path.head? = some part := by
  simp only [parts, List.mem_eraseDups, List.mem_filterMap, Option.ite_none_right_eq_some]

/-- No path is empty or deeper than the depth. -/
def Within (depth : Nat) (rs : List Registration) : Prop :=
  ∀ r ∈ rs, r.path ≠ [] ∧ r.path.length ≤ depth

theorem Within.inside {depth : Nat} (h : Within (depth + 1) rs) (part : List Char) :
    Within depth (inside part rs) := by
  intro r hr
  obtain ⟨s, hs, hin, -, rfl⟩ := mem_inside_iff.1 hr
  have hlong : 1 < s.path.length := decide_eq_true_eq.mp hin
  have hdeep := (h s hs).2
  refine ⟨List.ne_nil_of_length_pos ?_, ?_⟩
  · rw [List.length_tail]
    omega
  · rw [List.length_tail]
    omega

theorem exists_inside_iff (part : List Char) (n : String × Nat) :
    (∃ r ∈ inside part rs, (r.name, r.slot) = n) ↔
      ∃ r ∈ rs, r.isInner = true ∧ r.path.head? = some part ∧ (r.name, r.slot) = n := by
  constructor
  · intro ⟨r, hr, hn⟩
    obtain ⟨s, hs, hin, hhead, rfl⟩ := mem_inside_iff.1 hr
    exact ⟨s, hs, hin, hhead, hn⟩
  · intro ⟨s, hs, hin, hhead, hn⟩
    exact ⟨_, mem_inside_iff.2 ⟨s, hs, hin, hhead, rfl⟩, hn⟩

/-- A name is arranged at its own level or inside one of the parts there. -/
theorem mem_arranged_succ_iff (depth : Nat) (rs : List Registration) (n : String × Nat) :
    n ∈ arranged (depth + 1) rs ↔ (∃ r ∈ rs, r.isInner = false ∧ (r.name, r.slot) = n) ∨
      ∃ part ∈ parts rs, n ∈ arranged depth (inside part rs) := by
  simp only [arranged, List.mem_append, List.mem_map, List.mem_filter, List.mem_flatMap,
    Bool.not_eq_true']
  refine or_congr_left ⟨?_, ?_⟩
  · rintro ⟨r, ⟨⟨hr, hin⟩, -⟩ | ⟨⟨hr, hin⟩, -⟩, hn⟩
    · exact ⟨r, hr, hin, hn⟩
    · exact ⟨r, hr, hin, hn⟩
  · intro ⟨r, hr, hin, hn⟩
    cases hlearned : r.learned
    · exact ⟨r, .inr ⟨⟨hr, hin⟩, hlearned⟩, hn⟩
    · exact ⟨r, .inl ⟨⟨hr, hin⟩, hlearned⟩, hn⟩

/-- All registrations are arranged, however deep in the module. -/
theorem mem_arranged_iff (depth : Nat) {rs : List Registration} (h : Within depth rs) (n : String × Nat) :
    n ∈ arranged depth rs ↔ ∃ r ∈ rs, (r.name, r.slot) = n := by
  induction depth generalizing rs with
  | zero =>
    simp only [arranged, List.not_mem_nil, false_iff, not_exists, not_and]
    intro r hr
    obtain ⟨hne, hlength⟩ := h r hr
    exact absurd (List.length_eq_zero_iff.1 (Nat.le_zero.1 hlength)) hne
  | succ depth ih =>
    have hinside : ∀ part, n ∈ arranged depth (inside part rs) ↔
        ∃ r ∈ rs, r.isInner = true ∧ r.path.head? = some part ∧ (r.name, r.slot) = n :=
      fun part => (ih (h.inside part)).trans (exists_inside_iff part n)
    rw [mem_arranged_succ_iff]
    simp only [hinside]
    constructor
    · rintro (⟨r, hr, -, hn⟩ | ⟨part, -, r, hr, -, -, hn⟩)
      · exact ⟨r, hr, hn⟩
      · exact ⟨r, hr, hn⟩
    · intro ⟨r, hr, hn⟩
      cases hin : r.isInner with
      | false => exact .inl ⟨r, hr, hin, hn⟩
      | true =>
        obtain ⟨part, rest, hcons⟩ := List.exists_cons_of_ne_nil (h r hr).1
        have hhead : r.path.head? = some part := by
          rw [hcons]
          rfl
        exact .inr ⟨part, mem_parts_iff.2 ⟨r, hr, hin, hhead⟩, r, hr, hin, hhead, hn⟩

theorem length_le_depth {r : Registration} (h : r ∈ rs) : r.path.length ≤ depth rs :=
  (le_foldl_max (fun r : Registration => r.path.length) rs 0).2 r h

end Registration

/-- Every second name is one for a name before it. -/
def TiesResolve : List String → List (String × String) → Prop
  | _, [] => True
  | names, t :: ties => t.2 ∈ names ∧ TiesResolve (t.1 :: names) ties

/-- A second name that is one for a name before it points where that name points. -/
theorem slot_lt_of_tiesResolve {slotOf : String → Nat} {count : Nat} {ties : List (String × String)}
    {names : List String} {done : List (String × Nat)} (h : TiesResolve names ties)
    (hnames : ∀ name ∈ names, slotOf name < count ∨ name ∈ Entries.keys done)
    (hdone : ∀ e ∈ done, e.2 < count) : ∀ e ∈ ties.foldl (fun (done : List (String × Nat)) t =>
      done ++ [(t.1, (Entries.get? t.2 done).getD (slotOf t.2))]) done, e.2 < count := by
  induction ties generalizing names done with
  | nil => exact hdone
  | cons t ties ih =>
    obtain ⟨htied, hties⟩ := h
    refine ih hties (fun name hname => ?_) fun e he => ?_
    · rw [Entries.keys, List.map_append, List.mem_append]
      rcases List.mem_cons.1 hname with rfl | hname
      · exact .inr (.inr (List.mem_singleton.2 rfl))
      · exact (hnames name hname).imp_right .inl
    · rcases List.mem_append.1 he with he | he
      · exact hdone e he
      · rw [List.mem_singleton.1 he]
        cases hget : Entries.get? t.2 done with
        | some i => exact hdone (t.2, i) (Entries.mem_of_get? hget)
        | none => exact (hnames _ htied).resolve_right ((Entries.get?_eq_none_iff _ _).1 hget)

/-- Registrations of all slots, arranged, make a complete layout. -/
theorem Layout.complete_arranged (className : String) {slots : List Slot} {rs : List Registration}
    (hpath : ∀ r ∈ rs, r.path ≠ []) (hslot : ∀ r ∈ rs, r.slot < slots.length)
    (hall : ∀ i < slots.length, ∃ r ∈ rs, r.slot = i) :
    Layout.Complete ⟨className, slots, Registration.arranged (Registration.depth rs) rs⟩ := by
  have hnames := Registration.mem_arranged_iff (Registration.depth rs) fun r hr =>
    ⟨hpath r hr, Registration.length_le_depth hr⟩
  refine ⟨fun n hn => ?_, fun i hi => ?_⟩
  · obtain ⟨r, hr, rfl⟩ := (hnames n).1 hn
    exact hslot r hr
  · obtain ⟨r, hr, rfl⟩ := hall i hi
    exact ⟨(r.name, r.slot), (hnames _).2 ⟨r, hr, rfl⟩, rfl⟩

/-- A module that is built from parts has a complete layout. -/
theorem Layout.complete_ofParts (className : String) (learned others : List (String × List Nat))
    {ties : List (String × String)} (h : TiesResolve ((learned ++ others).map Prod.fst) ties) :
    (Layout.ofParts className learned others ties).Complete := by
  have hlength : (learned.map (fun p => (⟨p.2, true⟩ : Slot)) ++
      others.map fun p => (⟨p.2, false⟩ : Slot)).length = (learned ++ others).length := by
    simp only [List.length_append, List.length_map]
  have hown : ∀ name ∈ (learned ++ others).map Prod.fst,
      (learned ++ others).findIdx (fun p => p.1 == name) < (learned ++ others).length := by
    intro name hname
    obtain ⟨p, hp, rfl⟩ := List.mem_map.1 hname
    exact List.findIdx_lt_length_of_exists ⟨p, hp, beq_self_eq_true _⟩
  have hties := slot_lt_of_tiesResolve h (fun name hname => .inl (hown name hname))
    fun e (he : e ∈ []) => absurd he List.not_mem_nil
  refine Layout.complete_arranged className (fun r hr => ?_) (fun r hr => ?_) fun i hi => ?_
  · rcases List.mem_append.1 hr with hr | hr
    · obtain ⟨p, -, rfl⟩ := List.mem_map.1 hr
      exact Text.splitOnChar_ne_nil _ _
    · obtain ⟨t, -, rfl⟩ := List.mem_map.1 hr
      exact Text.splitOnChar_ne_nil _ _
  · rw [hlength]
    rcases List.mem_append.1 hr with hr | hr
    · obtain ⟨p, hp, rfl⟩ := List.mem_map.1 hr
      exact List.snd_lt_of_mem_zipIdx hp
    · obtain ⟨t, ht, rfl⟩ := List.mem_map.1 hr
      exact hties t ht
  · rw [hlength] at hi
    refine ⟨_, List.mem_append_left _ (List.mem_map_of_mem (a := ((learned ++ others)[i], i)) ?_), rfl⟩
    exact List.mk_mem_zipIdx_iff_getElem?.2 (List.getElem?_eq_getElem hi)

end SequenceClassification.Weights
