import SequenceClassification.Weights.Module
import SequenceClassification.Weights.StateFile

/-!
The parameter store: it owns one module, which is attached once, and loads weights files into it. Main
statement: loading changes nothing but values.
-/
namespace SequenceClassification.Weights

structure Store where
  device : String := "cpu"
  attached : Option Module := none
deriving Inhabited

namespace Store

def module (s : Store) : Except Failure Module :=
  match s.attached with
  | some m => .ok m
  | none => .error (.runtime "No module attached to the parameter store")

def attach (s : Store) (m : Module) : Store × Except Failure Unit :=
  match s.attached with
  | some _ => (s, .error (.runtime "Parameter store already owns a module"))
  | none => ({ s with attached := some m }, .ok ())

def parameterCount (s : Store) : Except Failure Nat := s.module.map fun m => m.layout.learnedElements

def load (s : Store) (path : String) (content : FileContent) : Store × Except Failure Unit :=
  match s.attached with
  | none => (s, s.module.map fun _ => ())
  | some m =>
    match readState path content with
    | .error e => (s, .error e)
    | .ok state =>
      match state.entries? with
      | none =>
        (s, .error (.wrongType ("Expected state_dict to be dict-like, got <class '" ++
          state.qualifiedKind ++ "'>.")))
      | some entries =>
        let (m, outcome) := m.copyFrom (Path.normalize path) entries
        ({ s with attached := some m }, outcome)

/-- Loading keeps the layout of the module. -/
theorem layout_load {s : Store} (path : String) (content : FileContent) :
    (s.load path content).1.attached.map Module.layout = s.attached.map Module.layout := by
  unfold load
  split
  · rfl
  · rename_i m hm
    split
    · rfl
    · split
      · rfl
      · simp [hm, Module.layout_copyFrom]

end Store

end SequenceClassification.Weights
