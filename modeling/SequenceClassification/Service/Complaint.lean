import SequenceClassification.Json.Wire

/-!
Complaints about the body of a request. A complaint says what is wrong, where, and what was found there. An
answer that lists complaints repeats what was found, so it can only be written when that is plain and not
nested too deep.
-/
namespace SequenceClassification.Service

inductive Defect where
  | invalidJson
  | missing
  | noObject
  | noList
  | tooShort
  | noString
  | noCharacters
  | noNumber
  | noNumeral
  | belowZero
deriving Repr, DecidableEq, Inhabited

def Defect.tag : Defect → String
  | .invalidJson => "json_invalid"
  | .missing => "missing"
  | .noObject => "model_attributes_type"
  | .noList => "list_type"
  | .tooShort => "too_short"
  | .noString => "string_type"
  | .noCharacters => "string_unicode"
  | .noNumber => "float_type"
  | .noNumeral => "float_parsing"
  | .belowZero => "greater_than_equal"

def Defect.message : Defect → String
  | .invalidJson => "JSON decode error"
  | .missing => "Field required"
  | .noObject => "Input should be a valid dictionary or object to extract fields from"
  | .noList => "Input should be a valid list"
  | .tooShort => "List should have at least 1 item after validation, not 0"
  | .noString => "Input should be a valid string"
  | .noCharacters => "Input should be a valid string, unable to parse raw data as a unicode string"
  | .noNumber => "Input should be a valid number"
  | .noNumeral => "Input should be a valid number, unable to parse string as a number"
  | .belowZero => "Input should be greater than or equal to 0"

/-- A step on the way to a part of a body: a member by its name, or an item by its number. -/
inductive Step where
  | member (name : String)
  | item (index : Nat)
deriving Repr, DecidableEq, Inhabited

def Step.json : Step → Json
  | .member name => .str name
  | .item index => .int index

structure Complaint where
  defect : Defect
  path : List Step
  found : Wire
deriving Inhabited

def Complaint.location (c : Complaint) : Json := .arr (.str "body" :: c.path.map Step.json)

/-- Whether what was found can be written into an answer, where `levels` levels of nesting can. -/
def Complaint.isWritable (levels : Nat) (c : Complaint) : Bool := c.found.isWritable levels

/-- Different defects have different names. -/
theorem Defect.tag_injective {d e : Defect} (h : d.tag = e.tag) : d = e := by
  revert h
  cases d <;> cases e <;> decide

end SequenceClassification.Service
