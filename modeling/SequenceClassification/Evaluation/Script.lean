import SequenceClassification.Evaluation.CommandLine
import SequenceClassification.Evaluation.Confusion
import SequenceClassification.Evaluation.Report
import SequenceClassification.Evaluation.Sample

/-!
The evaluation as a program: it reads the command line and the table, runs the model over the texts, and
prints metrics, a report by class, and the most frequent confusions. What was printed before a failure
stays.
-/
namespace SequenceClassification.Evaluation

structure Console where
  out : String := ""
  err : String := ""
  /-- The batches of texts that reached the model. -/
  handed : List (List String) := []
  outcome : Except Failure Unit := .ok ()
deriving Inhabited

def Console.batches (console : Console) : List Nat := console.handed.map List.length

namespace Script

def exit (code : Nat) : Failure := ⟨.programExit, toString code⟩

def halted (h : Halt) : Console :=
  match h.complaint? with
  | none => { out := helpText, outcome := .error (exit 0) }
  | some complaint =>
    { err := usage ++ "evaluate: error: " ++ complaint ++ "\n", outcome := .error (exit 2) }

def texts (sample : Sample) : List String := sample.texts.map Json.inText

def metricsLine (number : Float → String) (m : Metrics Float) : String :=
  "EVAL METRICS: \x7b'accuracy': " ++ number m.accuracy ++ ", 'macro_f1': " ++ number m.macroF1 ++
    ", 'micro_f1': " ++ number m.microF1 ++ ", 'weighted_f1': " ++ number m.weightedF1 ++ "\x7d\n"

def confusionLine : Nat × Json × Json → String
  | (count, gold, predicted) =>
    padLeft 4 (toString count) ++ " | " ++ gold.inText ++ " → " ++ predicted.inText ++ "\n"

def confusionText (confusions : List (Nat × Json × Json)) : String :=
  if confusions.isEmpty then "\nNo confusions on eval set.\n"
  else "\nTOP CONFUSIONS (true → predicted):\n" ++ String.join (confusions.map confusionLine)

def reportHeading : String := "\nPER-CLASS REPORT:\n\n"

def summary (number : Float → String) (table : LabelTable) (gold predicted : List Int) :
    String × Except Failure Unit :=
  match computeMetrics gold predicted (some (LabelTable.sortedIds table)) with
  | .error e => ("", .error e)
  | .ok m =>
    let soFar := metricsLine number m ++ reportHeading
    match report table gold predicted with
    | .error e => (soFar, .error e)
    | .ok text =>
      let soFar := soFar ++ text ++ "\n"
      match topConfusions table gold predicted (some defaultTop) with
      | .error e => (soFar, .error e)
      | .ok confusions => (soFar ++ confusionText confusions, .ok ())

def score (number : Float → String) (m : Facade String) (batchSize : Int) (texts : List String)
    (gold : List Int) : Console :=
  let run := predictIds m texts batchSize
  match run.outcome with
  | .error e => { handed := run.handed, outcome := .error e }
  | .ok predicted =>
    let said := summary number m.labels gold predicted
    { out := said.1, handed := run.handed, outcome := said.2 }

def evaluateOn (number : Float → String) (m : Facade String) (batchSize : Int) (sample : Sample) : Console :=
  match goldIds m.labels sample.labels with
  | .error e => { outcome := .error e.failure }
  | .ok gold => score number m batchSize (texts sample) gold

/-- Runs the program. The model is only built once the table has been read. -/
def run (number : Float → String) (disk : Disk) (model : Except Failure (Facade String))
    (argv : List String) : Console :=
  match Arguments.ofWords argv with
  | .error h => halted h
  | .ok arguments =>
    match Sample.ofFile disk arguments.table with
    | .error e => { outcome := .error e }
    | .ok sample =>
      match model with
      | .error e => { outcome := .error e }
      | .ok m => evaluateOn number m arguments.batchSize sample

/-- The closing part says that there are no confusions exactly when none is listed. -/
theorem confusionText_nil : confusionText [] = "\nNo confusions on eval set.\n" := rfl

end Script

end SequenceClassification.Evaluation
