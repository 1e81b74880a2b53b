import SequenceClassification.Failure
import SequenceClassification.Json.Writer

/-!
Truncation of a content that is too long together with the special tokens around it. Main statement: what
is cut is cut from the end, and the total is then at most the limit.
-/
namespace SequenceClassification.Tokenizer

inductive TruncationStrategy where
  | onlyFirst
  | onlySecond
  | longestFirst
  | never
deriving Repr, DecidableEq, Inhabited

namespace TruncationStrategy

def named : List (String × TruncationStrategy) :=
  [("only_first", .onlyFirst), ("only_second", .onlySecond), ("longest_first", .longestFirst),
    ("do_not_truncate", .never)]

/-- The strategy that a value names; a truth value says whether to truncate. -/
def ofValue (v : Json) : Except Failure TruncationStrategy :=
  match v with
  | .bool b => .ok (if b then .longestFirst else .never)
  | v =>
    match v.str?.bind fun s => Entries.get? s named with
    | some strategy => .ok strategy
    | none => .error (.invalidValue (v.inText ++
        " is not a valid TruncationStrategy, please select one of " ++
        Text.bracketed (named.map fun e => Text.quoted e.1)))

def cuts : TruncationStrategy → Bool
  | .onlyFirst | .longestFirst => true
  | .onlySecond | .never => false

end TruncationStrategy

/-- The content, cut so that with `around` special tokens it has `limit` ids. It stays as it is if it is
short enough, if all of it would have to go, or if the limit is zero, which means none. -/
def truncated {α : Type} (strategy : TruncationStrategy) (limit : Int) (around : Nat) (content : List α) :
    List α :=
  let excess := (content.length + around : Int) - limit
  if strategy.cuts && limit != 0 && decide (0 < excess) && decide (excess < content.length) then
    content.take (content.length - excess.toNat)
  else content

/-- Truncation keeps a front of the content. -/
theorem truncated_isPrefix {α : Type} (strategy : TruncationStrategy) (limit : Int) (around : Nat)
    (content : List α) : truncated strategy limit around content <+: content := by
  unfold truncated
  dsimp only
  split
  · exact List.take_prefix _ _
  · exact List.prefix_refl _

/-- Under a strategy that cuts, and a limit above the number of special tokens, the total is at most the
limit. -/
theorem length_truncated_le {α : Type} {strategy : TruncationStrategy} {limit : Int} {around : Nat}
    (content : List α) (hs : strategy.cuts = true) (hl : (around : Int) < limit) :
    ((truncated strategy limit around content).length + around : Int) ≤ limit := by
  have hlimit : limit ≠ 0 := by omega
  by_cases h : 0 < (content.length + around : Int) - limit ∧
      (content.length + around : Int) - limit < content.length
  · simp only [truncated, hs, Bool.true_and, bne_iff_ne.2 hlimit, h, decide_true, if_true,
      List.length_take]
    omega
  · have : (content.length + around : Int) - limit ≤ 0 := by omega
    simp only [truncated, hs, Bool.true_and, decide_eq_false (Int.not_lt.2 this), Bool.and_false,
      Bool.false_and, Bool.false_eq_true, if_false]
    omega

end SequenceClassification.Tokenizer
