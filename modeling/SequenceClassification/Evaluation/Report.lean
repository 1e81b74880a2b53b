import SequenceClassification.Evaluation.Metrics
import SequenceClassification.Label
import SequenceClassification.Decimal.Fixed

/-!
The per-class report: a table with one row for each class of the label table, by class id, then rows for
the averages. Names are set flush right in one column, numbers in columns of nine with four places.
-/
namespace SequenceClassification.Evaluation

def reportPlaces : Nat := 4

def reportColumn : Nat := 9

def padLeft (width : Nat) (s : String) : String :=
  String.ofList (List.replicate (width - s.length) ' ') ++ s

def reportRow (width : Nat) (name : String) (cells : List String) : String :=
  padLeft width name ++ " " ++ "".intercalate (cells.map fun c => " " ++ padLeft reportColumn c) ++ "\n"

/-- A class name for the report: only texts can be laid out. -/
def reportName : Json → Except Failure String
  | .str s => .ok s
  | v@(.arr _) | v@(.obj _) =>
    .error (.wrongType ("unsupported format string passed to " ++ v.kindName ++ ".__format__"))
  | v => .error (.wrongType ("object of type '" ++ v.kindName ++ "' has no len()"))

def reportClasses (table : LabelTable) : Except Failure (List (Int × String)) :=
  (LabelTable.sortedIds table).mapM fun id => do
    let text ← LabelTable.textOf table id
    let name ← reportName text
    pure (id, name)

/-- The report. Its row of totals is the accuracy when the classes cover all ids that occur, and the
average over all decisions otherwise. Supports are written with a fraction when nothing at all was
predicted rightly. -/
def report (table : LabelTable) (gold predicted : List Int) : Except Failure String := do
  if table.isEmpty then
    throw (.invalidValue "not enough values to unpack (expected 2, got 0)")
  let outcomes ← pairUp gold predicted
  let classes ← reportClasses table
  let Q := quotients64
  let count (n : Nat) : String := toString n ++ (if correct outcomes == 0 then ".0" else "")
  let quotient (x : Float) : String := Decimal.fixed reportPlaces x
  let width := (classes.map fun c => c.2.length).foldl max "weighted avg".length
  let counts := classes.map fun c => ClassCount.of outcomes c.1
  let total := ClassCount.total counts
  let row (name : String) (c : ClassCount) : String :=
    reportRow width name [quotient (c.precision Q), quotient (c.recall Q), quotient (c.f1 Q), count c.support]
  let averaged (name : String) (average : (ClassCount → Float) → Float) : String :=
    reportRow width name [quotient (average (ClassCount.precision Q)),
      quotient (average (ClassCount.recall Q)), quotient (average (ClassCount.f1 Q)), count total.support]
  let covered := outcomes.all fun p => classes.any (fun c => c.1 == p.1) && classes.any (fun c => c.1 == p.2)
  let totals := if covered then
      reportRow width "accuracy" ["", "", quotient (total.f1 Q), count total.support]
    else row "micro avg" total
  pure (toString gold.length ++ " examples, " ++ toString classes.length ++ " classes\n\n" ++
    reportRow width "" ["precision", "recall", "f1-score", "support"] ++ "\n" ++
    "".intercalate ((classes.zip counts).map fun (c, n) => row c.2 n) ++ "\n" ++ totals ++
    averaged "macro avg" (macroAverage Q · counts) ++
    averaged "weighted avg" (weightedAverage Q · counts))

/-- A text that fits its column is filled up to the width of it. -/
theorem length_padLeft {width : Nat} {s : String} (h : s.length ≤ width) :
    (padLeft width s).length = width := by
  simp [padLeft]
  omega

end SequenceClassification.Evaluation
