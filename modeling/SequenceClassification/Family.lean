import SequenceClassification.Failure
import SequenceClassification.Json.Writer

/-!
Model families: a closed set of tags, on which tokenizers, configurations and classifiers are chosen.
Main statement: a family is read back from its tag, and from no other text.
-/
namespace SequenceClassification

inductive Family where
  | bert
  | distilBert
  | roberta
  | xlmRoberta
  | albert
  | bart
  | electra
  | marian
  | t5
deriving Repr, DecidableEq, Inhabited

namespace Family

def all : List Family :=
  [.bert, .distilBert, .roberta, .xlmRoberta, .albert, .bart, .electra, .marian, .t5]

def tag : Family → String
  | .bert => "bert"
  | .distilBert => "distilbert"
  | .roberta => "roberta"
  | .xlmRoberta => "xlm-roberta"
  | .albert => "albert"
  | .bart => "bart"
  | .electra => "electra"
  | .marian => "marian"
  | .t5 => "t5"

def displayName : Family → String
  | .bert => "Bert"
  | .distilBert => "DistilBert"
  | .roberta => "Roberta"
  | .xlmRoberta => "XLMRoberta"
  | .albert => "Albert"
  | .bart => "Bart"
  | .electra => "Electra"
  | .marian => "Marian"
  | .t5 => "T5"

def constantName (f : Family) : String := f.displayName.toUpper

def ofTag? (s : String) : Option Family := all.find? fun f => f.tag == s

def ofValue (v : Json) : Except Failure Family :=
  match v.str?.bind ofTag? with
  | some f => .ok f
  | none => .error (.invalidValue (v.display ++ " is not a valid ModelType"))

def hasClassifier : Family → Bool
  | .electra | .marian | .t5 => false
  | _ => true

theorem mem_all (f : Family) : f ∈ all := by cases f <;> decide

/-- Different families have different tags. -/
theorem tag_injective {f g : Family} (h : f.tag = g.tag) : f = g := by
  revert h
  cases f <;> cases g <;> decide

theorem ofTag?_tag (f : Family) : ofTag? f.tag = some f := by cases f <;> decide

/-- A text is read as a family exactly when it is that family's tag. -/
theorem ofTag?_eq_some_iff {s : String} {f : Family} : ofTag? s = some f ↔ s = f.tag := by
  constructor
  · intro h
    have := List.find?_some h
    exact (beq_iff_eq.1 this).symm
  · rintro rfl
    exact ofTag?_tag f

end Family

end SequenceClassification
