import SequenceClassification.Failure
import SequenceClassification.Json.Value
import SequenceClassification.Decimal.Binary

/-!
Batches of token ids. The sequences of a batch are padded on the right to the longest of them, and a mask
tells the tokens from the padding. Both begin as padding alone, and the sequences are written into their rows
one after the other. Main statements: every row of ids and of the mask has the width of the batch, and the
ids under the ones of the mask are the sequence.
-/
namespace SequenceClassification

inductive BatchFault where
  | noSequences
  | tokenOutOfRange
  | padOutOfRange
deriving Repr, DecidableEq

def BatchFault.failure : BatchFault → Failure
  | .noSequences => .invalidValue "max() arg is an empty sequence"
  | .tokenOutOfRange => .runtime "Overflow when unpacking long"
  | .padOutOfRange => .runtime "value cannot be converted to type int64_t without overflow"

def isTokenId (n : Int) : Bool := -9223372036854775808 ≤ n && n ≤ 9223372036854775807

/-- Padded sequences and the mask of their tokens, one for a token and zero for padding. -/
structure Batch where
  width : Nat
  ids : List (List Int)
  mask : List (List Int)
deriving Repr, DecidableEq

namespace Batch

def padRow (width : Nat) (padId : Int) (s : List Int) : List Int :=
  s ++ List.replicate (width - s.length) padId

def maskRow (width : Nat) (s : List Int) : List Int :=
  List.replicate s.length 1 ++ List.replicate (width - s.length) 0

def longest (sequences : List (List Int)) : Nat := sequences.foldl (fun n s => max n s.length) 0

def blank (rows width : Nat) (padId : Int) : Batch where
  width := width
  ids := List.replicate rows (List.replicate width padId)
  mask := List.replicate rows (List.replicate width 0)

/-- A row with its front overwritten. -/
def overwrite (front row : List Int) : List Int := front ++ row.drop front.length

def write (i : Nat) (s : List Int) (b : Batch) : Batch :=
  { b with
    ids := b.ids.modify i (overwrite s)
    mask := b.mask.modify i (overwrite (List.replicate s.length 1)) }

/-- Writes sequences into the rows from `i` on. The first one with a token out of range ends it. -/
def writeFrom (i : Nat) : List (List Int) → Batch → Except BatchFault Batch
  | [], b => .ok b
  | s :: rest, b =>
    if s.all isTokenId then writeFrom (i + 1) rest (b.write i s) else .error .tokenOutOfRange

def pad (sequences : List (List Int)) (padId : Int) : Except BatchFault Batch :=
  if sequences.isEmpty then .error .noSequences
  else if !isTokenId padId then .error .padOutOfRange
  else writeFrom 0 sequences (blank sequences.length (longest sequences) padId)

def unmask : List Int → List Int → List Int
  | id :: ids, m :: mask => if m = 1 then id :: unmask ids mask else unmask ids mask
  | _, _ => []

theorem length_padRow {width : Nat} {s : List Int} (padId : Int) (h : s.length ≤ width) :
    (padRow width padId s).length = width := by
  simp [padRow]
  omega

theorem length_maskRow {width : Nat} {s : List Int} (h : s.length ≤ width) :
    (maskRow width s).length = width := by
  simp [maskRow]
  omega

theorem unmask_replicate_zero (ids : List Int) (n : Nat) :
    unmask ids (List.replicate n 0) = [] := by
  induction ids generalizing n with
  | nil => simp [unmask]
  | cons a ids ih => cases n <;> simp [unmask, List.replicate_succ, ih]

/-- The mask recovers the sequence, whatever the padding. -/
theorem unmask_padRow (width : Nat) (padId : Int) (s : List Int) :
    unmask (padRow width padId s) (maskRow width s) = s := by
  have key : ∀ (s tail : List Int) (n : Nat),
      unmask (s ++ tail) (List.replicate s.length 1 ++ List.replicate n 0) = s := by
    intro s tail n
    induction s with
    | nil => simpa using unmask_replicate_zero tail n
    | cons a s ih => simp [unmask, List.replicate_succ, ih]
  exact key s _ _

end Batch

/-- A token id as it is supplied: truth values count as zero and one, a fraction is dropped, and a
list of one item stands for its item. -/
def suppliedTokenId : Json → Except Failure Int
  | .int n => .ok n
  | .bool b => .ok (if b then 1 else 0)
  | .float x =>
    if x.isNaN then .error (.invalidValue "cannot convert float NaN to integer")
    else if x.isInf then .error (.overflow "cannot convert float infinity to integer")
    else .ok (Decimal.truncate x)
  | .arr [v] => suppliedTokenId v
  | v => .error (.wrongType ("'" ++ v.kindName ++ "' object cannot be interpreted as an integer"))

def suppliedToken (v : Json) : Except Failure Int := do
  let n ← suppliedTokenId v
  if isTokenId n then pure n else throw BatchFault.tokenOutOfRange.failure

/-- Token sequences as they are supplied, made into a batch. The first token that is none decides. -/
def suppliedBatch (sequences : List (List Json)) (padId : Json) : Except Failure Batch := do
  if sequences.isEmpty then throw BatchFault.noSequences.failure
  let pad ← suppliedTokenId padId
  if !isTokenId pad then throw BatchFault.padOutOfRange.failure
  let rows ← sequences.mapM fun s => s.mapM suppliedToken
  (Batch.pad rows pad).mapError BatchFault.failure

end SequenceClassification
