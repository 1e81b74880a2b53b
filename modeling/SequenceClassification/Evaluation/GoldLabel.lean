import SequenceClassification.Label
import SequenceClassification.Decimal.Integer

/-!
Gold labels. A gold label is a label text of the model, or a class id in any spelling: a number, or a text
of digits. Texts of digits are always ids.
-/
namespace SequenceClassification.Evaluation

inductive GoldFault where
  | unknown (text : String) (known : List Json)
  | badNumeral (text : String) (fault : Decimal.IntegerFault)
  | notANumber
  | infinite
  | notConvertible (kind : String)
  | idOutOfRange
  | unhashable (kind : String)
  | unordered (left right : String)
deriving BEq

def GoldFault.failure : GoldFault → Failure
  | .unknown text known => .invalidValue ("Unknown label " ++ Text.quoted text ++
      "; model labels are " ++ Text.bracketed (known.map Json.display))
  | .badNumeral text fault => .invalidValue (fault.message text)
  | .notANumber => .invalidValue "cannot convert float NaN to integer"
  | .infinite => .overflow "cannot convert float infinity to integer"
  | .notConvertible kind => .wrongType
      ("int() argument must be a string, a bytes-like object or a real number, not '" ++ kind ++ "'")
  | .idOutOfRange => .overflow "Python int too large to convert to C long"
  | .unhashable kind => .wrongType ("unhashable type: '" ++ kind ++ "'")
  | .unordered left right => .wrongType ("'<' not supported between instances of '" ++ left ++
      "' and '" ++ right ++ "'")

/-- Label texts and their class ids. Of equal texts the first is kept, with the last id. -/
abbrev TextIndex := List (Json × Int)

namespace TextIndex

def put (text : Json) (id : Int) : TextIndex → TextIndex
  | [] => [(text, id)]
  | (t, i) :: rest => if t.same text then (t, id) :: rest else (t, i) :: put text id rest

def find? (text : String) (index : TextIndex) : Option Int :=
  (List.find? (fun e => e.1.str? == some text) index).map Prod.snd

/-- Enters the label text of a class. Lists and objects cannot be label texts here. -/
def enter (index : TextIndex) (entry : Int × Json) : Except GoldFault TextIndex :=
  match entry.2 with
  | .arr _ | .obj _ => .error (.unhashable entry.2.kindName)
  | text => .ok (put text entry.1 index)

def ofTable (table : LabelTable) : Except GoldFault TextIndex := table.foldlM enter []

end TextIndex

def isText : Json → Bool
  | .str _ => true
  | _ => false

def isNumeric : Json → Bool
  | .int _ | .float _ | .bool _ => true
  | _ => false

def comparable (a b : Json) : Bool := (isText a && isText b) || (isNumeric a && isNumeric b)

def asFloat : Json → Float
  | .float x => x
  | .int n => Decimal.intToFloat n
  | .bool b => if b then 1 else 0
  | _ => 0

/-- Whether one value comes before another: texts by their characters, numbers by their size. -/
def precedes (a b : Json) : Bool :=
  match a, b with
  | .str s, .str t => decide (s < t)
  | .int m, .int n => decide (m < n)
  | _, _ => decide (asFloat a < asFloat b)

def unorderedPair? : List Json → Option (Json × Json)
  | a :: b :: rest => if comparable a b then unorderedPair? (b :: rest) else some (b, a)
  | _ => none

def sortedTexts (texts : List Json) : Except GoldFault (List Json) :=
  match unorderedPair? texts with
  | some (a, b) => .error (.unordered a.kindName b.kindName)
  | none => .ok (texts.mergeSort fun a b => !precedes b a)

def idOfValue : Json → Except GoldFault Int
  | .int n => .ok n
  | .bool b => .ok (if b then 1 else 0)
  | .float x =>
    if x.isNaN then .error .notANumber
    else if x.isInf then .error .infinite
    else .ok (Decimal.truncate x)
  | .str s => (Decimal.readInteger s).mapError (.badNumeral s)
  | v => .error (.notConvertible v.kindName)

def idOfGold (index : TextIndex) (label : Json) : Except GoldFault Int :=
  match label with
  | .str s =>
    if Text.isAllDigits s then idOfValue label
    else match index.find? s with
      | some id => .ok id
      | none =>
        match sortedTexts (index.map Prod.fst) with
        | .error e => .error e
        | .ok known => .error (.unknown s known)
  | _ => idOfValue label

def isClassId (n : Int) : Bool := -9223372036854775808 ≤ n && n ≤ 9223372036854775807

/-- The class ids of gold labels, in their order. The first label that has none decides the failure. -/
def goldIds (table : LabelTable) (labels : List Json) : Except GoldFault (List Int) := do
  let index ← TextIndex.ofTable table
  let ids ← labels.mapM (idOfGold index)
  if ids.all isClassId then pure ids else throw .idOutOfRange

/-- A text of digits is read as a numeral, whatever the label texts are. -/
theorem idOfGold_of_isAllDigits {s : String} (h : Text.isAllDigits s = true) (index : TextIndex) :
    idOfGold index (.str s) = (Decimal.readInteger s).mapError (.badNumeral s) := by
  simp [idOfGold, h, idOfValue]

end SequenceClassification.Evaluation
