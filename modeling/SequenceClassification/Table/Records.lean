import SequenceClassification.Failure

/-!
Records of comma-separated text. Fields are plain or stand between double quotes, where a quote is
written twice; line ends are a line feed, a carriage return, or both; blank lines are no records. The
first record is the header, the next may have any length, and of the others none may be longer than the
one before; shorter ones are filled up with empty fields. Main statement: scanning a text in two parts is
scanning it whole.
-/
namespace SequenceClassification.Table

inductive Fault where
  | noColumns
  | unclosedQuote (line : Nat)
  | tooManyFields (expected line found : Nat)
deriving Repr, DecidableEq

def Fault.failure : Fault → Failure
  | .noColumns => ⟨.emptyTable, "No columns to parse from file"⟩
  | .unclosedQuote line => ⟨.malformedTable,
      "Error tokenizing data. C error: EOF inside string starting at row " ++ toString line⟩
  | .tooManyFields expected line found => ⟨.malformedTable,
      "Error tokenizing data. C error: Expected " ++ toString expected ++ " fields in line " ++
        toString line ++ ", saw " ++ toString found ++ "\n"⟩

inductive Place where
  | recordStart
  | blanks (seen : List Char)
  | fieldStart
  | inField
  | inQuotes
  | afterQuote
  | afterReturn
  | afterSkippedReturn
deriving Repr, DecidableEq, Inhabited

/-- The state of the scanner: the field and the record in progress, the records so far, all of them the
last first, and the number of lines behind it. -/
structure Scan where
  place : Place := .recordStart
  field : List Char := []
  record : List (List Char) := []
  records : List (List (List Char)) := []
  lines : Nat := 0
  fault : Option Fault := none
deriving Repr, DecidableEq, Inhabited

namespace Scan

def push (s : Scan) (c : Char) : Scan := { s with field := c :: s.field }

def goTo (s : Scan) (p : Place) : Scan := { s with place := p }

def endField (s : Scan) : Scan := { s with field := [], record := s.field.reverse :: s.record }

def filled (n : Nat) (record : List (List Char)) : List (List Char) :=
  record ++ List.replicate (n - record.length) []

def endRecord (s : Scan) : Scan :=
  let record := s.record.reverse
  let done := { s with place := .recordStart, record := [], lines := s.lines + 1 }
  match s.records with
  | [] => { done with records := [record] }
  | [header] => { done with records := [filled header.length record, header] }
  | last :: before =>
    if last.length < record.length then
      { done with fault := some (.tooManyFields last.length (s.lines + 1) record.length) }
    else { done with records := filled last.length record :: last :: before }

/-- Passes over a line that is no record. -/
def skipLine (s : Scan) (p : Place) : Scan := { s with place := p, lines := s.lines + 1 }

def ending (s : Scan) (c : Char) (other : Scan) : Scan :=
  if c == '\n' then s.endField.endRecord
  else if c == '\r' then s.endField.goTo .afterReturn
  else if c == ',' then s.endField.goTo .fieldStart
  else other

def inField (s : Scan) (c : Char) : Scan := s.ending c ((s.push c).goTo .inField)

def atFieldStart (s : Scan) (c : Char) : Scan :=
  if c == '"' then s.goTo .inQuotes else s.inField c

def isLineBlank (c : Char) : Bool := c == ' ' || c == '\t'

def atRecordStart (s : Scan) (c : Char) : Scan :=
  if c == '\n' then s.skipLine .recordStart
  else if c == '\r' then s.skipLine .afterSkippedReturn
  else if isLineBlank c then s.goTo (.blanks [c])
  else s.atFieldStart c

def next (s : Scan) (c : Char) : Scan :=
  if s.fault.isSome then s
  else match s.place with
    | .recordStart => s.atRecordStart c
    | .blanks seen =>
      if c == '\n' then s.skipLine .recordStart
      else if c == '\r' then s.skipLine .afterSkippedReturn
      else if isLineBlank c then s.goTo (.blanks (c :: seen))
      else { s with field := seen }.inField c
    | .fieldStart => s.atFieldStart c
    | .inField => s.inField c
    | .inQuotes => if c == '"' then s.goTo .afterQuote else s.push c
    | .afterQuote => if c == '"' then (s.push c).goTo .inQuotes else s.inField c
    | .afterReturn => if c == '\n' then s.endRecord else s.endRecord.atRecordStart c
    | .afterSkippedReturn => if c == '\n' then s.goTo .recordStart else s.atRecordStart c

def run (s : Scan) (text : List Char) : Scan := text.foldl next s

def finish (s : Scan) : Scan :=
  if s.fault.isSome then s
  else match s.place with
    | .recordStart | .blanks _ | .afterSkippedReturn => s
    | .inQuotes => { s with fault := some (.unclosedQuote s.lines) }
    | .afterReturn => s.endRecord
    | .fieldStart | .inField | .afterQuote => s.endField.endRecord

/-- Scanning a text in two parts is scanning it whole. -/
theorem run_append (s : Scan) (a b : List Char) : s.run (a ++ b) = (s.run a).run b :=
  List.foldl_append

end Scan

def records (text : List Char) : Except Fault (List (List (List Char))) :=
  let s := (Scan.run {} text).finish
  match s.fault with
  | some f => .error f
  | none => if s.records.isEmpty then .error .noColumns else .ok s.records.reverse

end SequenceClassification.Table
