import SequenceClassification.Classifier.Inputs
import SequenceClassification.Classifier.Layout
import SequenceClassification.Weights.Store

/-!
Classifiers. A classifier is built for a family from a configuration of that family, and its module is
attached to a parameter store. Each call says whether it is made for training, which sets the mode of the
classifier.
-/
namespace SequenceClassification

open Classifier

structure Classifier where
  family : Family
  architecture : Architecture
  training : Bool := false
deriving Inhabited

namespace Classifier

def wrongConfiguration (family : Family) : Failure :=
  .own .modelTypeMismatch ("You can only supply a " ++ (ConfigKind.ofFamily family).name ++ " for " ++
    family.displayName ++ "!")

def checkConfiguration (family : Family) (config : ModelConfig) : Except Failure Unit :=
  if !family.hasClassifier then
    .error (.own .modelTypeMismatch ("Sequence classification not implemented for " ++ family.displayName ++
      "!"))
  else if config.family != family ||
      config.configuration.kind.name != (ConfigKind.ofFamily family).name then
    .error (wrongConfiguration family)
  else .ok ()

/-- What is given for the tensors of a new classifier: the first values of their slots, or the failure to
build it. -/
abbrev Initializer := Family → Configuration → Except Failure Weights.Copies

def zeroed : Initializer := fun family c => do
  let architecture := Architecture.ofConfiguration family c
  architecture.check
  pure (List.replicate architecture.layout.slots.length none)

/-- The classifier of a family under a configuration, and its module. It begins in training mode. -/
def design (initial : Initializer) (family : Family) (config : ModelConfig) :
    Except Failure (Classifier × Weights.Module) := do
  checkConfiguration family config
  let values ← initial family config.configuration
  let architecture := Architecture.ofConfiguration family config.configuration
  pure ({ family := family, architecture := architecture, training := true },
    ⟨architecture.layout, values⟩)

def constructFrom (initial : Initializer) (family : Family) (store : Weights.Store) (config : ModelConfig) :
    Weights.Store × Except Failure Classifier :=
  match design initial family config with
  | .error e => (store, .error e)
  | .ok (c, m) =>
    let (store, attached) := store.attach m
    (store, attached.map fun _ => { c with training := false })

def construct : Family → Weights.Store → ModelConfig → Weights.Store × Except Failure Classifier :=
  constructFrom zeroed

/-- The family that a classifier is shown as: two families share one implementation. -/
def shownFamily (c : Classifier) : Family := if c.family == .xlmRoberta then .roberta else c.family

def labelCount (c : Classifier) : Nat := c.architecture.labels

/-- Calls a classifier: the mode becomes that of the call, and the model, which may depend on the mode,
gets the inputs that the family takes. -/
def call {τ ρ : Type} (model : Bool → Handed τ → Except Failure ρ) (c : Classifier) (inputs : Supplied τ)
    (train : Bool) : Classifier × Except Failure ρ :=
  let c := { c with training := train }
  (c, (handed c.family inputs).bind (model c.training))

end Classifier

end SequenceClassification
