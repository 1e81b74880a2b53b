import SequenceClassification.Evaluation.Script
import SequenceClassification.Pipeline

/-!
The evaluation as a command. What it prints and how it ends is decided by the script; here the table is
fetched, and what the script leaves behind is written out. The default checkpoint is asked of a hub that has
no connection.
-/
namespace SequenceClassification.Evaluation.Command

def offlineHub : Hub := fun _ => .refusal "ConnectionError" "no connection"

def levels : Pipeline.Levels := ⟨990, 970⟩

def standardModel (disk : Disk) : Except Failure (Facade String) :=
  (Pipeline.build levels Settings.standard disk offlineHub).map Pipeline.textFacade

def ending (outcome : Except Failure Unit) : Nat × String :=
  match outcome with
  | .ok _ => (0, "")
  | .error e =>
    if e.kind == .programExit then (e.message.toNat?.getD 1, "")
    else (1, e.kind.name ++ ": " ++ e.message ++ "\n")

def contentAt (path : String) : IO FileContent := do
  try
    let bytes ← IO.FS.readBinFile path
    return .octets (bytes.toList.map UInt8.toNat)
  catch
    | .inappropriateType .. => return .directory
    | _ => return .missing

def diskFor (argv : List String) : IO Disk := do
  match Arguments.ofWords argv with
  | .error _ => return []
  | .ok arguments => return [(Path.normalize arguments.table, ← contentAt arguments.table)]

def run (argv : List String) : IO UInt32 := do
  let disk ← diskFor argv
  let console := Script.run Decimal.shortest disk (standardModel disk) argv
  let (code, last) := ending console.outcome
  (← IO.getStdout).putStr console.out
  (← IO.getStderr).putStr (console.err ++ last)
  return code.toUInt32

end SequenceClassification.Evaluation.Command

def main (argv : List String) : IO UInt32 := SequenceClassification.Evaluation.Command.run argv
