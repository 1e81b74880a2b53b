import SequenceClassification.Failure
import SequenceClassification.Text.Quoted
import SequenceClassification.Weights.Layout

/-!
A module and the copying of stored tensors into it. Each name that the state holds is tried in module
order: a tensor that fits is copied, one that does not leaves a note, and copying goes on. Main
statements: the layout never changes, and a slot is only written through a name of the state.
-/
namespace SequenceClassification.Weights

abbrev Copies := List (Option (List Float32))

/-- A module: its layout and what has been copied into it. A slot that nothing was copied into is zero. -/
structure Module where
  layout : Layout
  copies : Copies
deriving Inhabited

def Module.zero (l : Layout) : Module := ⟨l, List.replicate l.slots.length none⟩

def Module.valuesOf (m : Module) (i : Nat) : List Float32 :=
  match m.copies[i]? with
  | some (some values) => values
  | _ => List.replicate (m.layout.slot i).size 0

inductive Fit where
  | copied (values : List Float32)
  | unfit (note : String)
  | emptyScalar
deriving Inhabited

def shapeText (shape : List Nat) : String :=
  "torch.Size(" ++ Text.bracketed (shape.map fun n => toString n) ++ ")"

/-- Offers a stored value to a slot. A tensor fits if it has the shape of the slot; of a list of numbers a
single number takes the first. -/
def fit (name : String) (slot : Slot) : Stored → Fit
  | .tensor t =>
    if slot.shape.isEmpty && t.shape.length == 1 then
      match t.values with
      | [] => .emptyScalar
      | x :: _ => .copied [x.toFloat32]
    else if t.shape == slot.shape then .copied (t.values.map Float.toFloat32)
    else .unfit ("size mismatch for " ++ name ++ ": copying a param with shape " ++ shapeText t.shape ++
      " from checkpoint, the shape in current model is " ++ shapeText slot.shape ++ ".")
  | v => .unfit ("While copying the parameter named \"" ++ name ++
      "\", expected torch.Tensor or Tensor-like object from checkpoint but received <class '" ++
      v.qualifiedKind ++ "'>")

structure Copying where
  copies : Copies
  notes : List String := []
  stopped : Bool := false
deriving Inhabited

def Copying.offer (l : Layout) (state : Entries String Stored) (c : Copying) (n : String × Nat) : Copying :=
  if c.stopped then c
  else match Entries.get? n.1 state with
    | none => c
    | some v =>
      match fit n.1 (l.slot n.2) v with
      | .copied values => { c with copies := c.copies.set n.2 (some values) }
      | .unfit note => { c with notes := c.notes ++ [note] }
      | .emptyScalar => { c with stopped := true }

def Copying.all (m : Module) (state : Entries String Stored) : Copying :=
  m.layout.names.foldl (Copying.offer m.layout state) { copies := m.copies }

def namedStorages (l : Layout) (state : Entries String Stored) : List (Option Nat) :=
  (l.names.filter fun n => Entries.has n.1 state).map fun n => l.storage n.2

/-- The names that a state neither holds nor reaches under another name of their storage. -/
def missingNames (l : Layout) (state : Entries String Stored) : List String :=
  let reached := namedStorages l state
  (l.names.filter fun n => !Entries.has n.1 state && !reached.contains (l.storage n.2)).map Prod.fst

def shownNames : Nat := 5

def Copying.outcome (m : Module) (path : String) (state : Entries String Stored) (c : Copying) :
    Except Failure Unit :=
  if c.stopped then .error (.outOfRange "index 0 is out of bounds for dimension 0 with size 0")
  else if !c.notes.isEmpty then
    .error (.own .weightLoading ("Weights in " ++ path ++
      " do not fit the model: Error(s) in loading state_dict for " ++ m.layout.className ++ ":\n\t" ++
      "\n\t".intercalate c.notes))
  else
    let missing := missingNames m.layout state
    if missing.isEmpty then .ok ()
    else .error (.own .weightLoading ("Weights in " ++ path ++ " are missing " ++
      toString missing.length ++ " tensors, e.g. " ++
      Text.bracketed ((missing.take shownNames).map Text.quoted)))

/-- Copies a state into a module. What was copied before a failure stays. -/
def Module.copyFrom (m : Module) (path : String) (state : Entries String Stored) :
    Module × Except Failure Unit :=
  let c := Copying.all m state
  ({ m with copies := c.copies }, c.outcome m path state)

/-- Copying never changes the layout. -/
theorem Module.layout_copyFrom (m : Module) (path : String) (state : Entries String Stored) :
    (m.copyFrom path state).1.layout = m.layout := rfl

/-- Trying a name leaves other slots alone. -/
theorem Copying.getElem?_offer_of_ne {l : Layout} {state : Entries String Stored} {c : Copying}
    {n : String × Nat} {i : Nat} (h : i ≠ n.2) : (c.offer l state n).copies[i]? = c.copies[i]? := by
  unfold Copying.offer
  split
  · rfl
  · split
    · rfl
    · split
      · exact List.getElem?_set_ne (Ne.symm h)
      · rfl
      · rfl

/-- Trying a name that the state lacks changes nothing. -/
theorem Copying.offer_of_get?_none {l : Layout} {state : Entries String Stored} {c : Copying}
    {n : String × Nat} (h : Entries.get? n.1 state = none) : c.offer l state n = c := by
  unfold Copying.offer
  simp [h]

/-- The number of slots stays. -/
theorem Copying.length_offer (l : Layout) (state : Entries String Stored) (c : Copying)
    (n : String × Nat) : (c.offer l state n).copies.length = c.copies.length := by
  unfold Copying.offer
  split
  · rfl
  · split
    · rfl
    · split <;> simp

end SequenceClassification.Weights
