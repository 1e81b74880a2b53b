import SequenceClassification.Json.Reader
import SequenceClassification.Service.Complaint
import SequenceClassification.Text.Blank
import SequenceClassification.Text.Split

/-!
The body of a request: a text and the content type it is declared to have. Only a body of a JSON type is
read as JSON; a body without a declared type counts as JSON.
-/
namespace SequenceClassification.Service

inductive BodyFault where
  | malformed (complaint : Complaint)
  | excessive
deriving Inhabited

def mediaType? (contentType : String) : Option (String × String) :=
  let name := Text.trim (contentType.toList.takeWhile (· != ';'))
  match Text.splitOnChar '/' (name.map Char.toLower) with
  | [main, sub] => some (String.ofList main, String.ofList sub)
  | _ => none

def isJsonSubtype (sub : String) : Bool := sub == "json" || sub.endsWith "+json"

def isJsonType : Option String → Bool
  | none => true
  | some contentType =>
    contentType.isEmpty || match mediaType? contentType with
      | some (main, sub) => main == "application" && isJsonSubtype sub
      | none => false

def dropMark : List Char → List Char
  | '\ufeff' :: s => s
  | s => s

/-- Reads a JSON body. A text beyond the limits of the reader is refused as a whole; any other fault is a
complaint about its place. -/
def readJson (levels : Nat) (text : List Char) : Except BodyFault Wire :=
  match Json.readWire levels text with
  | .ok v => .ok v
  | .error r =>
    if r.fault.hasPlace then .error (.malformed ⟨.invalidJson, [.item (r.position text)], .obj []⟩)
    else .error .excessive

/-- The value of a body; none if the body is empty or null. A body of another type than JSON is a bare
text. -/
def readBody (levels : Nat) (contentType : Option String) (body : String) : Except BodyFault (Option Wire) :=
  if body.isEmpty then .ok none
  else if isJsonType contentType then
    (readJson levels (dropMark body.toList)).map fun
      | .null => none
      | v => some v
  else .ok (some (.str (.ofString body)))

end SequenceClassification.Service
