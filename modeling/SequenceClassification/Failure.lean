/-!
Failures. The pipeline has failures of its own, which callers recover from or report, and failures of a
general kind that come from values of the wrong sort. Every failure has a class and a message; the class
has a line of ancestors that tells by what else it can be caught.
-/
namespace SequenceClassification

/-- The failures of the pipeline itself. The first four are failures to build it from the resources
supplied; the others mean that configuration, vocabulary and weights do not belong together. -/
inductive PipelineFault where
  | resource
  | tokenizer
  | modelConfig
  | weightLoading
  | modelTypeMismatch
  | missingPadToken
  | labelMapping
  | missingInput
deriving Repr, DecidableEq, Inhabited

inductive FailureClass where
  | own (fault : PipelineFault)
  | invalidValue
  | wrongType
  | outOfRange
  | missingKey
  | missingAttribute
  | overflow
  | runtime
  | recursion
  | notImplemented
  | fileNotFound
  | isDirectory
  | emptyTable
  | malformedTable
  | undecodable
  | frozenField
  | programExit
  | foreign (name : String)
deriving Repr, DecidableEq, Inhabited

namespace PipelineFault

def all : List PipelineFault :=
  [.resource, .tokenizer, .modelConfig, .weightLoading, .modelTypeMismatch, .missingPadToken,
    .labelMapping, .missingInput]

def name : PipelineFault → String
  | .resource => "ResourceError"
  | .tokenizer => "TokenizerError"
  | .modelConfig => "ModelConfigError"
  | .weightLoading => "WeightLoadingError"
  | .modelTypeMismatch => "ModelTypeMismatchError"
  | .missingPadToken => "MissingPadTokenError"
  | .labelMapping => "LabelMappingError"
  | .missingInput => "MissingInputError"

def isInvalidValue : PipelineFault → Bool
  | .modelTypeMismatch | .missingInput => true
  | _ => false

/-- Different failures have different names. -/
theorem name_injective {f g : PipelineFault} (h : f.name = g.name) : f = g := by
  revert h
  cases f <;> cases g <;> decide

end PipelineFault

def pipelineErrorName : String := "PipelineError"

def commonAncestors : List String := ["Exception", "BaseException", "object"]

def PipelineFault.lineage (f : PipelineFault) : List String :=
  f.name :: pipelineErrorName :: ((if f.isInvalidValue then ["ValueError"] else []) ++ commonAncestors)

def lineageOf? (name : String) : Option (List String) :=
  if name == pipelineErrorName then some (pipelineErrorName :: commonAncestors)
  else (PipelineFault.all.find? fun f => f.name == name).map PipelineFault.lineage

def FailureClass.name : FailureClass → String
  | .own fault => fault.name
  | .invalidValue => "ValueError"
  | .wrongType => "TypeError"
  | .outOfRange => "IndexError"
  | .missingKey => "KeyError"
  | .missingAttribute => "AttributeError"
  | .overflow => "OverflowError"
  | .runtime => "RuntimeError"
  | .recursion => "RecursionError"
  | .notImplemented => "NotImplementedError"
  | .fileNotFound => "FileNotFoundError"
  | .isDirectory => "IsADirectoryError"
  | .emptyTable => "EmptyDataError"
  | .malformedTable => "ParserError"
  | .undecodable => "UnicodeDecodeError"
  | .frozenField => "FrozenInstanceError"
  | .programExit => "SystemExit"
  | .foreign name => name

structure Failure where
  kind : FailureClass
  message : String
deriving Repr, DecidableEq, Inhabited

namespace Failure

def own (fault : PipelineFault) (message : String) : Failure := ⟨.own fault, message⟩

def isOwn (e : Failure) : Bool :=
  match e.kind with
  | .own _ => true
  | _ => false

def invalidValue (message : String) : Failure := ⟨.invalidValue, message⟩

def wrongType (message : String) : Failure := ⟨.wrongType, message⟩

def outOfRange (message : String) : Failure := ⟨.outOfRange, message⟩

def runtime (message : String) : Failure := ⟨.runtime, message⟩

def overflow (message : String) : Failure := ⟨.overflow, message⟩

@[simp] theorem isOwn_own (fault : PipelineFault) (message : String) :
    (own fault message).isOwn = true := rfl

end Failure

end SequenceClassification
