import SequenceClassification.Decimal.Integer
import SequenceClassification.Evaluation.Run
import SequenceClassification.Resource

/-!
The command line of the evaluation: an optional table, the batch size, and help. Options may be
shortened, values may follow an equals sign, and a double dash ends the options.
-/
namespace SequenceClassification.Evaluation

structure Arguments where
  table : String := projectRoot ++ "/data/eval.csv"
  batchSize : Int := defaultBatchSize
deriving Repr, DecidableEq, Inhabited

/-- Why the command line leads to no evaluation: help was asked for, or it cannot be understood. -/
inductive Halt where
  | help
  | ambiguous (word : String) (candidates : List String)
  | noValue
  | ignoredValue (value : String)
  | badNumber (value : String)
  | unrecognized (words : List String)
deriving Repr, DecidableEq

def usage : String := "usage: evaluate [-h] [--batch-size BATCH_SIZE] [csv]\n"

def helpText : String :=
  usage ++ "\nEvaluate the default sentiment classifier on a labeled CSV.\n\npositional arguments:\n" ++
    "  csv                   CSV with 'text' and 'label' columns\n\noptions:\n" ++
    "  -h, --help            show this help message and exit\n  --batch-size BATCH_SIZE\n"

def Halt.complaint? : Halt → Option String
  | .help => none
  | .ambiguous word candidates =>
    some ("ambiguous option: " ++ word ++ " could match " ++ ", ".intercalate candidates)
  | .noValue => some "argument --batch-size: expected one argument"
  | .ignoredValue value => some ("argument -h/--help: ignored explicit argument " ++ Text.quoted value)
  | .badNumber value => some ("argument --batch-size: invalid int value: " ++ Text.quoted value)
  | .unrecognized words => some ("unrecognized arguments: " ++ " ".intercalate words)

inductive Switch where
  | help
  | batchSize
deriving Repr, DecidableEq, Inhabited

def spellings : List (String × Switch) :=
  [("-h", .help), ("--help", .help), ("--batch-size", .batchSize)]

def switch? (s : String) : Option Switch := Entries.get? s spellings

/-- What is attached to an option: nothing, a value after an equals sign, or letters right behind it. -/
inductive Attached where
  | nothing
  | value (s : String)
  | letters (s : String)
deriving Repr, DecidableEq, Inhabited

inductive Word where
  | endOfOptions
  | value (s : String)
  | switch (option : Switch) (attached : Attached)
  | unknown (s : String)
deriving Repr, DecidableEq, Inhabited

def splitEquals (s : List Char) : Option (String × String) :=
  match s.dropWhile (· != '=') with
  | [] => none
  | _ :: after => some (String.ofList (s.takeWhile (· != '=')), String.ofList after)

def isNegativeNumber (s : List Char) : Bool :=
  match s with
  | '-' :: body =>
    let whole := body.takeWhile fun c => (Text.digitValue? c).isSome
    match body.drop whole.length with
    | [] => !whole.isEmpty
    | '.' :: places => !places.isEmpty && places.all fun c => (Text.digitValue? c).isSome
    | _ => false
  | _ => false

def longCandidates (s : String) : List (String × Switch × Attached) :=
  let (stem, attached) := match splitEquals s.toList with
    | some (stem, after) => (stem, Attached.value after)
    | none => (s, .nothing)
  (spellings.filter fun e => stem.toList.isPrefixOf e.1.toList).map fun e => (e.1, e.2, attached)

def shortCandidates (s : String) : List (String × Switch × Attached) :=
  spellings.filterMap fun e =>
    if e.1.toList == s.toList.take 2 then some (e.1, e.2, .letters (String.ofList (s.toList.drop 2)))
    else if s.toList.isPrefixOf e.1.toList then some (e.1, e.2, .nothing)
    else none

def exactSwitch? (s : String) : Option Word :=
  match switch? s with
  | some option => some (.switch option .nothing)
  | none =>
    match splitEquals s.toList with
    | some (stem, after) => (switch? stem).map fun option => .switch option (.value after)
    | none => none

def Word.ofString (s : String) : Except Halt Word :=
  match s.toList with
  | '-' :: second :: _ =>
    match exactSwitch? s with
    | some w => .ok w
    | none =>
      match if second == '-' then longCandidates s else shortCandidates s with
      | [(_, option, attached)] => .ok (.switch option attached)
      | _ :: _ :: _ =>
        .error (.ambiguous s ((if second == '-' then longCandidates s else shortCandidates s).map Prod.fst))
      | [] =>
        if isNegativeNumber s.toList || s.toList.contains ' ' then .ok (.value s) else .ok (.unknown s)
  | _ => .ok (.value s)

def words : List String → Except Halt (List Word)
  | [] => .ok []
  | s :: rest =>
    if s == "--" then .ok (.endOfOptions :: rest.map .value)
    else match Word.ofString s with
      | .error h => .error h
      | .ok w => (words rest).map (w :: ·)

structure Parse where
  arguments : Arguments := {}
  settled : Bool := false
  left : List String := []
deriving Repr, DecidableEq, Inhabited

namespace Parse

def takeSize (p : Parse) (s : String) : Except Halt Parse :=
  match Decimal.readInteger s with
  | .ok n => .ok { p with arguments := { p.arguments with batchSize := n } }
  | .error _ => .error (.badNumber s)

def takeTable (p : Parse) (s : String) : Parse :=
  { p with arguments := { p.arguments with table := s }, settled := true }

def leave (p : Parse) (s : String) : Parse := { p with left := p.left ++ [s] }

/-- What becomes of help with letters attached to it: they may ask for help again, or be no options. -/
def helpWith : List Char → Halt
  | '-' :: rest => .ignoredValue (String.ofList ('-' :: rest))
  | 'h' :: '=' :: rest => .ignoredValue (String.ofList rest)
  | 'h' :: rest => helpWith rest
  | _ => .help

def helpAttached : Attached → Halt
  | .nothing => .help
  | .value s => .ignoredValue s
  | .letters s => helpWith s.toList

def run (p : Parse) : List Word → Except Halt Parse
  | [] => .ok p
  | .unknown s :: rest => run (p.leave s) rest
  | .switch .help attached :: _ => .error (helpAttached attached)
  | .switch .batchSize (.value s) :: rest | .switch .batchSize (.letters s) :: rest
  | .switch .batchSize .nothing :: .value s :: rest =>
    match p.takeSize s with
    | .error h => .error h
    | .ok p => run p rest
  | .switch .batchSize .nothing :: _ => .error .noValue
  | .value s :: .endOfOptions :: rest =>
    if p.settled then run ((p.leave s).leave "--") rest else run (p.takeTable s) rest
  | .value s :: rest => if p.settled then run (p.leave s) rest else run (p.takeTable s) rest
  | .endOfOptions :: .value s :: rest =>
    if p.settled then run ((p.leave "--").leave s) rest else run (p.takeTable s) rest
  | .endOfOptions :: rest => if p.settled then run (p.leave "--") rest else run p rest
termination_by ws => ws.length

end Parse

def Arguments.ofWords (argv : List String) : Except Halt Arguments :=
  match words argv with
  | .error h => .error h
  | .ok ws =>
    match Parse.run {} ws with
    | .error h => .error h
    | .ok p => if p.left.isEmpty then .ok p.arguments else .error (.unrecognized p.left)

end SequenceClassification.Evaluation
