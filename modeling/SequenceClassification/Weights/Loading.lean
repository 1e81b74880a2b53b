import SequenceClassification.Weights.Store

/-!
Loading with any library that reads weights files. What is read may be a table with keys that are no names,
at which some operations on names fail; and a failure of reading is reported as one of loading only if one of
its ancestors is expected.
-/
namespace SequenceClassification.Weights

inductive Key where
  | name (name : String)
  | other (kind : String)
deriving Repr, DecidableEq, Inhabited

/-- What comes of asking a key that is no name whether it begins with a text. Octets can be asked, but not
for a text. -/
def Key.failure (kind : String) : Failure :=
  if kind == "bytes" then .wrongType "startswith first arg must be bytes or a tuple of bytes, not str"
  else ⟨.missingAttribute, "'" ++ kind ++ "' object has no attribute 'startswith'"⟩

def Key.dropMark (mark : String) : Key → Key
  | .name text => .name (Weights.dropMark mark text)
  | .other kind => .other kind

/-- A value that is read: a stored value, a tensor that is marked as learned, or a table with any keys, of
which nothing is looked at but its entries. -/
inductive Loaded where
  | value (v : Stored)
  | parameter (t : Tensor)
  | table (entries : List (Key × Loaded))
deriving Inhabited

structure ReadFailure where
  failure : Failure
  lineage : List String

def expectedClasses : List String :=
  ["OSError", "EOFError", "RuntimeError", "ValueError", "UnpicklingError", "SafetensorError"]

def ReadFailure.isExpected (r : ReadFailure) : Bool := r.lineage.any fun name => expectedClasses.contains name

abbrev Reader := String → FileContent → Except ReadFailure Loaded

namespace Loaded

def named (entries : Entries String Stored) : List (Key × Loaded) :=
  entries.map fun (name, v) => (.name name, .value v)

def entries? : Loaded → Option (List (Key × Loaded))
  | .value v => v.entries?.map named
  | .parameter _ => none
  | .table es => some es

def kindName : Loaded → String
  | .value v => v.kindName
  | .parameter _ => "Parameter"
  | .table _ => "dict"

def qualifiedKind : Loaded → String
  | .value v => v.qualifiedKind
  | .parameter _ => "torch.nn.parameter.Parameter"
  | .table _ => "dict"

def present : Loaded → Except Failure Bool
  | .value v => v.present
  | .parameter t => (Stored.tensor t).present
  | .table es => .ok !es.isEmpty

def stored : Loaded → Stored
  | .value v => v
  | .parameter t => .tensor t
  | .table _ => .table []

def namedEntries (entries : List (Key × Loaded)) : Entries String Stored :=
  entries.filterMap fun
    | (.name name, v) => some (name, v.stored)
    | (.other _, _) => none

def firstOther? (entries : List (Key × Loaded)) : Option String :=
  entries.findSome? fun
    | (.name _, _) => none
    | (.other kind, _) => some kind

/-- Whether all keys carry a mark. They are asked in their order, up to the first that does not. -/
def allCarry (mark : String) : List (Key × Loaded) → Except Failure Bool
  | [] => .ok true
  | (.name name, _) :: rest => if carries mark name then allCarry mark rest else .ok false
  | (.other kind, _) :: _ => .error (Key.failure kind)

def removeMark (mark : String) (entries : List (Key × Loaded)) : Except Failure (List (Key × Loaded)) :=
  (allCarry mark entries).map fun all =>
    if all then entries.map fun (key, v) => (key.dropMark mark, v) else entries

def removeMarks (entries : List (Key × Loaded)) : Except Failure (List (Key × Loaded)) :=
  wrapperMarks.foldlM (fun es mark => removeMark mark es) entries

/-- The state within a table that is read: the value under the key of the state, or else the table. -/
def state? (v : Loaded) : Option Loaded :=
  v.entries?.map fun es => (Entries.get? (.name stateKey) es).getD v

def notDictLike (v : Loaded) : Failure :=
  .wrongType ("Expected state_dict to be dict-like, got <class '" ++ v.qualifiedKind ++ "'>.")

/-- The entries of a state without the marks of wrappers. What is no table is asked for its keys if it counts
as present, and is otherwise handed on as it is. -/
def stateEntries (state : Loaded) : Except Failure (List (Key × Loaded)) :=
  match state.entries? with
  | some es => removeMarks es
  | none =>
    match state.present with
    | .error e => .error e
    | .ok true => .error ⟨.missingAttribute, "'" ++ state.kindName ++ "' object has no attribute 'keys'"⟩
    | .ok false => .error state.notDictLike

end Loaded

/-- The names of a module that are no names of its parts. -/
def Layout.ownNames (l : Layout) : List (String × Nat) := l.names.filter fun n => !n.1.toList.contains '.'

/-- What comes of a single number that is offered an empty list. -/
def emptyListFailure : Failure := .outOfRange "index 0 is out of bounds for dimension 0 with size 0"

/-- Copies a state into a module. A key that is no name stops it once the names of the module itself have been
tried. -/
def Module.copyEntries (m : Module) (path : String) (entries : List (Key × Loaded)) :
    Module × Except Failure Unit :=
  match Loaded.firstOther? entries with
  | none => m.copyFrom path (Loaded.namedEntries entries)
  | some kind =>
    let c := m.layout.ownNames.foldl (Copying.offer m.layout (Loaded.namedEntries entries)) { copies := m.copies }
    ({ m with copies := c.copies }, .error (if c.stopped then emptyListFailure else Key.failure kind))

def unreadFailure (path : String) (r : ReadFailure) : Failure :=
  if r.isExpected then .own .weightLoading ("Could not read weights from " ++ Path.normalize path)
  else r.failure

def Store.loadBy (reader : Reader) (s : Store) (path : String) (content : FileContent) :
    Store × Except Failure Unit :=
  match s.attached with
  | none => (s, s.module.map fun _ => ())
  | some m =>
    match reader path content with
    | .error r => (s, .error (unreadFailure path r))
    | .ok v =>
      match v.state? with
      | none =>
        (s, .error (.own .weightLoading ("Weights file " ++ Path.normalize path ++
          " does not contain a state dict")))
      | some state =>
        match state.stateEntries with
        | .error e => (s, .error e)
        | .ok entries =>
          let (m, outcome) := m.copyEntries (Path.normalize path) entries
          ({ s with attached := some m }, outcome)

def storedReader : Reader := fun path content =>
  match content with
  | .stored v => .ok (.value (listed path v))
  | .missing => .error ⟨⟨.fileNotFound, "No such file or directory"⟩, ["FileNotFoundError", "OSError"]⟩
  | .directory => .error ⟨⟨.isDirectory, "Is a directory"⟩, ["IsADirectoryError", "OSError"]⟩
  | .octets _ | .pieces _ => .error ⟨⟨.foreign "UnpicklingError", "invalid load key"⟩, ["UnpicklingError"]⟩

end SequenceClassification.Weights
