import SequenceClassification.Text.Split
import SequenceClassification.Weights.Stored

/-!
The tensors of a module. Names stand in module order: at each level first its learned tensors, then the
others, then the parts of the module in order of creation. Several names may stand for one tensor, so
names point to slots.
-/
namespace SequenceClassification.Weights

structure Slot where
  shape : List Nat
  learned : Bool
deriving Repr, DecidableEq, Inhabited

def Slot.size (s : Slot) : Nat := elements s.shape

/-- The class of a module, its slots, and its names in module order, each with its slot. -/
structure Layout where
  className : String
  slots : List Slot
  names : List (String × Nat)
deriving Repr, DecidableEq, Inhabited

namespace Layout

def slot (l : Layout) (i : Nat) : Slot := (l.slots[i]?).getD default

/-- The storage of a slot. Slots without elements have none. -/
def storage (l : Layout) (i : Nat) : Option Nat := if (l.slot i).size == 0 then none else some i

/-- The learned slots that names lead to, in their order. A slot that was seen is passed over. -/
def learnedFrom (l : Layout) (seen : List Nat) : List (String × Nat) → List Nat
  | [] => []
  | (_, i) :: rest =>
    if (l.slot i).learned && !seen.contains i then i :: learnedFrom l (i :: seen) rest
    else learnedFrom l seen rest

def learnedElements (l : Layout) : Nat :=
  (l.learnedFrom [] l.names).foldr (fun i n => (l.slot i).size + n) 0

def WellFormed (l : Layout) : Prop := ∀ n ∈ l.names, n.2 < l.slots.length

/-- Where slots have elements, storages tell slots apart. -/
theorem storage_inj {l : Layout} {i j : Nat} (hi : (l.slot i).size ≠ 0)
    (h : l.storage i = l.storage j) : i = j := by
  unfold storage at h
  by_cases hj : (l.slot j).size = 0
  · simp [hi, hj] at h
  · simpa [hi, hj] using h

end Layout

/-- A name being registered: its components, the full name, its slot, and whether the slot is learned. -/
structure Registration where
  path : List (List Char)
  name : String
  slot : Nat
  learned : Bool
deriving Inhabited

namespace Registration

def isInner (r : Registration) : Bool := 1 < r.path.length

def parts (rs : List Registration) : List (List Char) :=
  (rs.filterMap fun r => if r.isInner then r.path.head? else none).eraseDups

def inside (part : List Char) (rs : List Registration) : List Registration :=
  rs.filterMap fun r =>
    if r.isInner && r.path.head? == some part then some { r with path := r.path.tail } else none

/-- The names in module order, down to a given depth. -/
def arranged : Nat → List Registration → List (String × Nat)
  | 0, _ => []
  | depth + 1, rs =>
    let own := rs.filter fun r => !r.isInner
    (own.filter Registration.learned ++ own.filter fun r => !r.learned).map (fun r => (r.name, r.slot)) ++
      (parts rs).flatMap fun part => arranged depth (inside part rs)

def depth (rs : List Registration) : Nat := rs.foldl (fun n r => max n r.path.length) 0

end Registration

def Layout.ofParts (className : String) (learned others : List (String × List Nat))
    (ties : List (String × String)) : Layout :=
  let named := learned ++ others
  let slots := learned.map (fun p => ⟨p.2, true⟩) ++ others.map (fun p => ⟨p.2, false⟩)
  let slotOf (name : String) : Nat := named.findIdx fun p => p.1 == name
  let resolved := ties.foldl
    (fun (done : List (String × Nat)) (t : String × String) =>
      done ++ [(t.1, (Entries.get? t.2 done).getD (slotOf t.2))]) []
  let registration (name : String) (slot : Nat) (learned : Bool) : Registration :=
    ⟨Text.splitOnChar '.' name.toList, name, slot, learned⟩
  let rs := (named.zipIdx.map fun (p, i) => registration p.1 i (i < learned.length)) ++
    resolved.map fun t => registration t.1 t.2 true
  ⟨className, slots, Registration.arranged (Registration.depth rs) rs⟩

end SequenceClassification.Weights
