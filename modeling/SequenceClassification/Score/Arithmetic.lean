/-!
What scores are computed with. Decoding needs an order, two numbers zero and one, two values beyond all
others, logarithms and the sigmoid; it is written for any such arithmetic and run on floating-point
values.
-/
namespace SequenceClassification.Score

structure Arithmetic (α : Type) where
  zero : α
  one : α
  /-- Below every number. -/
  bottom : α
  /-- Above every number. -/
  top : α
  atMost : α → α → Bool
  sub : α → α → α
  log : α → α
  /-- The logarithm of one less the argument. -/
  logOneLess : α → α
  sigmoid : α → α

variable {α : Type}

/-- The logit whose sigmoid is the threshold. Thresholds of at most zero give the bottom, thresholds of
at least one the top. -/
def logitCutoff (A : Arithmetic α) (threshold : α) : α :=
  if A.atMost threshold A.zero then A.bottom
  else if A.atMost A.one threshold then A.top
  else A.sub (A.log threshold) (A.logOneLess threshold)

theorem logitCutoff_of_atMost_zero (A : Arithmetic α) {t : α} (h : A.atMost t A.zero = true) :
    logitCutoff A t = A.bottom := by
  simp [logitCutoff, h]

theorem logitCutoff_of_one_atMost (A : Arithmetic α) {t : α} (h0 : A.atMost t A.zero = false)
    (h1 : A.atMost A.one t = true) : logitCutoff A t = A.top := by
  simp [logitCutoff, h0, h1]

end SequenceClassification.Score
