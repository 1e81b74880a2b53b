import SequenceClassification.Configuration.Build
import SequenceClassification.Disk
import SequenceClassification.Json.Reader

/-!
Configurations for a family: read from a file, or built and tagged with the family that they name. A file
that declares another family is refused before anything is built.
-/
namespace SequenceClassification

structure ModelConfig where
  family : Family
  configuration : Configuration
deriving Inhabited

namespace ModelConfig

def labels (m : ModelConfig) : LabelTable := m.configuration.labels

def labelCount (m : ModelConfig) : Nat := m.configuration.labelCount

def unreadable (path cause : String) : Failure :=
  .own .modelConfig ("Could not read model configuration " ++ path ++ ": " ++ cause)

def readValue (levels : Nat) (path : String) (content : FileContent) : Except Failure Json :=
  match content.text with
  | .error e => .error (unreadable path (e.message path))
  | .ok text =>
    match Json.read levels text with
    | .ok v => .ok v
    | .error r =>
      if r.fault.isDepth then .error ⟨.recursion, r.message text⟩
      else .error (unreadable path (r.message text))

def checkDeclared (family : Family) (path : String) (declared : Json) : Except Failure Unit :=
  match declared with
  | .null => .ok ()
  | v =>
    if v.str? == some family.tag then .ok ()
    else .error (.own .modelTypeMismatch ("Configuration " ++ path ++ " is for model_type=" ++ v.display ++
      ", not " ++ family.displayName))

abbrev Builder := Family → Entries String Json → Except Failure Configuration

/-- Reads the configuration of a family from the file at a path, with a given builder. JSON may be nested
`levels` deep. -/
def fromFileBy (builder : Builder) (levels : Nat) (family : Family) (path : String) (content : FileContent) :
    Except Failure ModelConfig := do
  match ← readValue levels path content with
  | .obj fields =>
    checkDeclared family path ((Entries.get? "model_type" fields).getD .null)
    let c ← builder family fields
    pure ⟨family, c⟩
  | _ => throw (.own .modelConfig ("Model configuration " ++ path ++ " is not a JSON object"))

def fromFile (levels : Nat) (family : Family) (path : String) (content : FileContent) :
    Except Failure ModelConfig :=
  fromFileBy (fun family => Configuration.ofObject (.ofFamily family)) levels family path content

def ofConfiguration (c : Configuration) : Except Failure ModelConfig :=
  (Family.ofValue ((c.attribute? "model_type").getD .null)).map fun f => ⟨f, c⟩

end ModelConfig

end SequenceClassification
