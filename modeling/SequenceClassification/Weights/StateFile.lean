import SequenceClassification.Disk

/-!
Reading the state of a weights file: a table of named tensors. A table may be kept inside the file under
a key of its own, and its names may all carry the marks of the wrappers they were trained in. Main
statement: removing a mark changes nothing unless every name carries it.
-/
namespace SequenceClassification.Weights

def sortedFormat : String := ".safetensors"

def stateKey : String := "model_state_dict"

def wrapperMarks : List String := ["backbone.", "module."]

def dropMark (mark name : String) : String := String.ofList (name.toList.drop mark.toList.length)

def carries (mark name : String) : Bool := mark.toList.isPrefixOf name.toList

/-- Removes a mark from the names of a state, provided that every one carries it. -/
def removeMark (mark : String) (state : Entries String Stored) : Entries String Stored :=
  if state.all fun e => carries mark e.1 then state.map fun e => (dropMark mark e.1, e.2) else state

def removeMarks (state : Entries String Stored) : Entries String Stored :=
  wrapperMarks.foldl (fun s mark => removeMark mark s) state

/-- Whether a value counts as present in a test. A tensor does if it is one number that is not zero; of
other tensors the test makes no sense. -/
def Stored.present : Stored → Except Failure Bool
  | .plain v => .ok v.truthy
  | .table es => .ok !es.isEmpty
  | .other _ _ isPresent => .ok isPresent
  | .tensor t =>
    match t.values with
    | [x] => .ok (x != 0)
    | [] => .error (.runtime "Boolean value of Tensor with no values is ambiguous")
    | _ => .error (.runtime "Boolean value of Tensor with more than one value is ambiguous")

def unwrapped (content : Entries String Stored) : Stored :=
  (Entries.get? stateKey content).getD (.table content)

/-- The state within the content of a file. What is no table and counts as absent is left as it is. -/
def normalizedState (content : Entries String Stored) : Except Failure Stored :=
  let inner := unwrapped content
  match inner.entries? with
  | some state => .ok (.table (removeMarks state))
  | none =>
    match inner.present with
    | .error e => .error e
    | .ok false => .ok inner
    | .ok true => .error ⟨.missingAttribute, "'" ++ inner.kindName ++ "' object has no attribute 'keys'"⟩

def listed (path : String) (v : Stored) : Stored :=
  if Path.suffix path == sortedFormat then
    match v.entries? with
    | some es => .table (es.mergeSort fun a b => !(b.1 < a.1))
    | none => v
  else v

def readState (path : String) : FileContent → Except Failure Stored
  | .stored v =>
    match (listed path v).entries? with
    | some content => normalizedState content
    | none =>
      .error (.own .weightLoading ("Weights file " ++ Path.normalize path ++
        " does not contain a state dict"))
  | _ => .error (.own .weightLoading ("Could not read weights from " ++ Path.normalize path))

def stateEntries (state : Stored) : Except Failure (Entries String Stored) :=
  match state.entries? with
  | some es => .ok es
  | none => .error ⟨.missingAttribute, "'" ++ state.kindName ++ "' object has no attribute 'items'"⟩

/-- A mark that some name lacks is removed from none. -/
theorem removeMark_of_not_carried {mark : String} {state : Entries String Stored}
    {e : String × Stored} (h : e ∈ state) (hc : carries mark e.1 = false) :
    removeMark mark state = state := by
  unfold removeMark
  rw [if_neg]
  intro hall
  have := List.all_eq_true.1 hall e h
  rw [hc] at this
  cases this

/-- Removing a mark that every name carries gives the names behind it. -/
theorem dropMark_append (mark name : String) : dropMark mark (mark ++ name) = name := by
  simp [dropMark, String.toList_append, List.drop_left']

theorem carries_append (mark name : String) : carries mark (mark ++ name) = true := by
  simp [carries, String.toList_append]

end SequenceClassification.Weights
