import SequenceClassification.Failure

/-!
Metrics over pairs of a gold id and a predicted id. Each class is summed up by three counts; accuracy,
precision, recall and the F1 score are quotients of counts, and the averages over classes are written for
any arithmetic of quotients.
-/
namespace SequenceClassification.Evaluation

abbrev Outcomes := List (Int × Int)

def pairUp (gold predicted : List Int) : Except Failure Outcomes :=
  if gold.length == predicted.length then .ok (gold.zip predicted)
  else .error (.invalidValue ("Found input variables with inconsistent numbers of samples: [" ++
    toString gold.length ++ ", " ++ toString predicted.length ++ "]"))

/-- What is counted of a class: how often it was predicted rightly, how often it is the gold id (its
support), and how often it was predicted. -/
structure ClassCount where
  hits : Nat
  support : Nat
  predicted : Nat
deriving Repr, DecidableEq

def ClassCount.of (outcomes : Outcomes) (id : Int) : ClassCount where
  hits := outcomes.countP fun p => p.1 == id && p.2 == id
  support := outcomes.countP fun p => p.1 == id
  predicted := outcomes.countP fun p => p.2 == id

def ClassCount.add (c d : ClassCount) : ClassCount :=
  ⟨c.hits + d.hits, c.support + d.support, c.predicted + d.predicted⟩

def ClassCount.total (counts : List ClassCount) : ClassCount := counts.foldr ClassCount.add ⟨0, 0, 0⟩

def correct (outcomes : Outcomes) : Nat := outcomes.countP fun p => p.1 == p.2

structure Quotients (α : Type) where
  /-- A quotient of counts; zero when nothing is counted below. -/
  ratio : Nat → Nat → α
  /-- The value of an average over nothing. -/
  undefined : α
  mean : List α → α
  /-- The mean with weights whose sum is not zero. -/
  weightedMean : List (α × Nat) → α

variable {α : Type}

def ClassCount.precision (Q : Quotients α) (c : ClassCount) : α := Q.ratio c.hits c.predicted

def ClassCount.recall (Q : Quotients α) (c : ClassCount) : α := Q.ratio c.hits c.support

def ClassCount.f1 (Q : Quotients α) (c : ClassCount) : α := Q.ratio (2 * c.hits) (c.support + c.predicted)

def macroAverage (Q : Quotients α) (score : ClassCount → α) (counts : List ClassCount) : α :=
  if counts.isEmpty then Q.undefined else Q.mean (counts.map score)

def weightedAverage (Q : Quotients α) (score : ClassCount → α) (counts : List ClassCount) : α :=
  if counts.isEmpty then Q.undefined
  else if (ClassCount.total counts).support == 0 then Q.mean (counts.map score)
  else Q.weightedMean (counts.map fun c => (score c, c.support))

structure Metrics (α : Type) where
  accuracy : α
  macroF1 : α
  microF1 : α
  weightedF1 : α
deriving Repr

def accuracy (Q : Quotients α) (outcomes : Outcomes) : α :=
  if outcomes.isEmpty then Q.undefined else Q.ratio (correct outcomes) outcomes.length

/-- The metrics, the F1 averages being taken over the classes `labels`. -/
def metricsOf (Q : Quotients α) (labels : List Int) (outcomes : Outcomes) : Metrics α :=
  let counts := labels.map (ClassCount.of outcomes)
  { accuracy := accuracy Q outcomes
    macroF1 := macroAverage Q (ClassCount.f1 Q) counts
    microF1 := (ClassCount.total counts).f1 Q
    weightedF1 := weightedAverage Q (ClassCount.f1 Q) counts }

def occurringIds (outcomes : Outcomes) : List Int :=
  ((outcomes.map Prod.fst ++ outcomes.map Prod.snd).mergeSort fun a b => decide (a ≤ b)).eraseReps

/-- Neighbouring values in one of eight lanes are added up, then the lanes are joined in pairs. -/
def lanes (xs : List Float) (l : List Float) : List Float :=
  match xs with
  | a :: b :: c :: d :: e :: f :: g :: h :: rest =>
    lanes rest (List.zipWith (· + ·) l [a, b, c, d, e, f, g, h])
  | rest =>
    match l with
    | [a, b, c, d, e, f, g, h] => (((a + b) + (c + d)) + ((e + f) + (g + h))) :: rest
    | _ => rest

/-- The sum of floating-point values: one after the other if they are few, in eight lanes otherwise. -/
def laneSum (xs : List Float) : Float :=
  match xs with
  | a :: b :: c :: d :: e :: f :: g :: h :: rest =>
    match lanes rest [a, b, c, d, e, f, g, h] with
    | total :: left => left.foldl (· + ·) total
    | [] => 0
  | xs => xs.foldl (· + ·) 0

def quotients64 : Quotients Float where
  ratio := fun a b => if b == 0 then 0 else Float.ofNat a / Float.ofNat b
  undefined := 0 / 0
  mean := fun xs => laneSum xs / Float.ofNat xs.length
  weightedMean := fun xs =>
    laneSum (xs.map fun p => p.1 * Float.ofNat p.2) / Float.ofNat (xs.foldr (fun p n => p.2 + n) 0)

/-- The metrics of gold and predicted ids under an arithmetic of quotients. Without `labels` the averages
are over the ids that occur. -/
def computeMetricsIn (Q : Quotients α) (gold predicted : List Int) (labels : Option (List Int)) :
    Except Failure (Metrics α) :=
  match pairUp gold predicted with
  | .error e => .error e
  | .ok outcomes => .ok (metricsOf Q (labels.getD (occurringIds outcomes)) outcomes)

def computeMetrics (gold predicted : List Int) (labels : Option (List Int)) :
    Except Failure (Metrics Float) :=
  computeMetricsIn quotients64 gold predicted labels

/-- A class has no more hits than examples, and no more than predictions. -/
theorem ClassCount.hits_le (outcomes : Outcomes) (id : Int) :
    (ClassCount.of outcomes id).hits ≤ (ClassCount.of outcomes id).support ∧
      (ClassCount.of outcomes id).hits ≤ (ClassCount.of outcomes id).predicted := by
  constructor
  · exact List.countP_mono_left fun p _ h => by simp_all
  · exact List.countP_mono_left fun p _ h => by simp_all

/-- Pairing succeeds exactly on lists of one length. -/
theorem pairUp_isOk_iff (gold predicted : List Int) :
    (pairUp gold predicted).isOk = true ↔ gold.length = predicted.length := by
  unfold pairUp
  split <;> simp_all [Except.isOk, Except.toBool]

end SequenceClassification.Evaluation
