import SequenceClassification.Disk
import SequenceClassification.Table.Column
import SequenceClassification.Table.Header
import SequenceClassification.Table.Records
import SequenceClassification.Json.Writer

/-!
Labelled texts for evaluation, read from a table with a column of texts and one of labels. Rows where one
of the two is missing are dropped. Main statement: where nothing is missing, no row is
dropped.
-/
namespace SequenceClassification.Evaluation

structure Sample where
  columns : List String
  rows : List (Json × Json)
deriving Inhabited

namespace Sample

def texts (s : Sample) : List Json := s.rows.map Prod.fst

def labels (s : Sample) : List Json := s.rows.map Prod.snd

def requiredColumns : List String := ["label", "text"]

/-- A field up to its first null character. -/
def visible (field : List Char) : List Char := field.takeWhile (· != '\x00')

/-- The cells of one column; rows may have index fields before the columns. -/
def cellsAt (rows : List (List (List Char))) (index column : Nat) : List (List Char) :=
  rows.map fun row => visible ((row[index + column]?).getD [])

def complete : List (Option Json) → List (Option Json) → List (Json × Json)
  | some t :: ts, some l :: ls => (t, l) :: complete ts ls
  | _ :: ts, _ :: ls => complete ts ls
  | _, _ => []

def ofRecords (path : String) : List (List (List Char)) → Except Failure Sample
  | [] => .error Table.Fault.noColumns.failure
  | header :: rows =>
    let columns := Table.columnNames (header.map fun field => String.ofList (visible field))
    let absent := requiredColumns.filter fun name => !columns.contains name
    if !absent.isEmpty then
      .error (.invalidValue (path ++ " is missing columns: " ++
        Text.bracketed (absent.map Text.quoted)))
    else
      let width := (rows.headD header).length
      let values (name : String) := Table.columnValues (Table.rowsTogether width)
        (cellsAt rows (width - header.length) (columns.idxOf name))
      .ok ⟨columns, complete (values "text") (values "label")⟩

def dropByteOrderMark : List Char → List Char
  | '\ufeff' :: s => s
  | s => s

def ofFile (disk : Disk) (path : String) : Except Failure Sample :=
  match disk.openFile path with
  | .error e => .error (e.failure path)
  | .ok bytes =>
    match Text.decodeUtf8 bytes with
    | .error e => .error ((OpenFault.noText e).failure path)
    | .ok text =>
      match Table.records (dropByteOrderMark text) with
      | .error e => .error e.failure
      | .ok records => ofRecords path records

/-- Where no value is missing no row is dropped. -/
theorem complete_map_some (rows : List (Json × Json)) :
    complete (rows.map fun r => some r.1) (rows.map fun r => some r.2) = rows := by
  induction rows with
  | nil => rfl
  | cons r rest ih => simp [complete, ih]

end Sample

end SequenceClassification.Evaluation
