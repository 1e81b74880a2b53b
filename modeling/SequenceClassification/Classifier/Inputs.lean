import SequenceClassification.Entries
import SequenceClassification.Failure
import SequenceClassification.Family

/-!
The inputs of a classifier. Callers of all families supply inputs in one way; each family is handed those
it takes, under the names it knows them by, and is asked for named outputs. Main statement: names
tell inputs apart.
-/
namespace SequenceClassification.Classifier

inductive Input where
  | tokens
  | mask
  | tokenTypes
  | positions
  | embeddings
deriving Repr, DecidableEq, Inhabited

def Input.name : Input → String
  | .tokens => "input_ids"
  | .mask => "attention_mask"
  | .tokenTypes => "token_type_ids"
  | .positions => "position_ids"
  | .embeddings => "inputs_embeds"

abbrev Supplied (τ : Type) := Input → Option τ

def accepted : Family → List Input
  | .bart => [.tokens, .mask]
  | .distilBert => [.tokens, .mask, .embeddings]
  | _ => [.tokens, .mask, .tokenTypes, .positions, .embeddings]

inductive Argument (τ : Type) where
  | input (value : Option τ)
  | switch (on : Bool)

def Argument.value? {τ : Type} : Argument τ → Option τ
  | .input value => value
  | .switch _ => none

abbrev Handed (τ : Type) := Entries String (Argument τ)

def namedOutputs : String := "return_dict"

def missingTokens : Failure := .own .missingInput "\x60input_ids\x60 must be provided for BART models"

/-- What is handed to a classifier of a family: each input that the family takes, supplied or not. One family
cannot do without tokens. -/
def handed {τ : Type} (family : Family) (inputs : Supplied τ) : Except Failure (Handed τ) :=
  if family == .bart && (inputs .tokens).isNone then .error missingTokens
  else .ok ((accepted family).map (fun i => (i.name, .input (inputs i))) ++ [(namedOutputs, .switch true)])

def Handed.get? {τ : Type} (h : Handed τ) (i : Input) : Option τ :=
  (Entries.get? i.name h).bind Argument.value?

/-- Names tell inputs apart. -/
theorem Input.name_injective {i j : Input} (h : i.name = j.name) : i = j := by
  revert h
  cases i <;> cases j <;> decide

end SequenceClassification.Classifier
