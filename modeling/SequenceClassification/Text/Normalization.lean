import SequenceClassification.Text.Decomposition

/-!
Normal forms of texts. A text is decomposed (canonically, or up to compatibility) until nothing
decomposes further, runs of combining characters are put into the order of their classes, and for the
composed form pairs are put together again unless a character of at least their class stands between.
-/
namespace SequenceClassification.Text

def combiningClass (n : Nat) : Nat := combiningClasses.getD n 0

def hangulParts (n : Nat) : Option (List Nat) :=
  if 0xAC00 ≤ n && n ≤ 0xD7A3 then
    let i := n - 0xAC00
    let lead := 0x1100 + i / 588
    let vowel := 0x1161 + i % 588 / 28
    let tail := 0x11A7 + i % 28
    some (if i % 28 == 0 then [lead, vowel] else [lead, vowel, tail])
  else none

def decompositionStep (compat : Bool) (n : Nat) : Option (List Nat) :=
  match canonicalDecompositions[n]? with
  | some parts => some parts
  | none =>
    match hangulParts n with
    | some parts => some parts
    | none => if compat then compatibilityDecompositions[n]? else none

def expand (compat : Bool) : Nat → Nat → List Nat
  | 0, n => [n]
  | depth + 1, n =>
    match decompositionStep compat n with
    | none => [n]
    | some parts => parts.flatMap (expand compat depth)

/-- No chain of decompositions in the tables is longer than this. -/
def decompositionDepth : Nat := 16

/-- Puts `n` behind a reversed text, before the combining characters of a higher class at its end. -/
def placeByClass (n : Nat) : List Nat → List Nat
  | [] => [n]
  | m :: done =>
    if combiningClass n != 0 && decide (combiningClass n < combiningClass m) then
      m :: placeByClass n done
    else n :: m :: done

def canonicalOrder (s : List Nat) : List Nat :=
  (s.foldl (fun done n => placeByClass n done) []).reverse

def composePair (a b : Nat) : Option Nat :=
  if 0x1100 ≤ a && a ≤ 0x1112 && 0x1161 ≤ b && b ≤ 0x1175 then
    some (0xAC00 + ((a - 0x1100) * 21 + (b - 0x1161)) * 28)
  else if 0xAC00 ≤ a && a ≤ 0xD7A3 && (a - 0xAC00) % 28 == 0 && 0x11A8 ≤ b && b ≤ 0x11C2 then
    some (a + (b - 0x11A7))
  else compositions[(a, b)]?

/-- Composes what follows the starter `starter`; `marks` are the characters kept since, the last first. -/
def composeAfter (starter : Nat) (marks : List Nat) : List Nat → List Nat
  | [] => starter :: marks.reverse
  | n :: s =>
    let blocked := match marks with
      | [] => false
      | m :: _ => decide (combiningClass n ≤ combiningClass m)
    match (if blocked then none else composePair starter n) with
    | some c => composeAfter c marks s
    | none =>
      if combiningClass n == 0 then starter :: (marks.reverse ++ composeAfter n [] s)
      else composeAfter starter (n :: marks) s

def composeAll : List Nat → List Nat
  | [] => []
  | n :: s => if combiningClass n == 0 then composeAfter n [] s else n :: composeAll s

def decomposed (compat : Bool) (s : List Char) : List Nat :=
  canonicalOrder (s.flatMap fun c => expand compat decompositionDepth c.toNat)

def canonicalDecomposed (s : List Char) : List Char := (decomposed false s).map Char.ofNat

def compatibilityDecomposed (s : List Char) : List Char := (decomposed true s).map Char.ofNat

def canonicalComposed (s : List Char) : List Char := (composeAll (decomposed false s)).map Char.ofNat

/-- Putting a character in its place keeps the number of characters. -/
theorem length_placeByClass (n : Nat) (done : List Nat) :
    (placeByClass n done).length = done.length + 1 := by
  induction done with
  | nil => rfl
  | cons m done ih => unfold placeByClass; split <;> simp [ih]

end SequenceClassification.Text
