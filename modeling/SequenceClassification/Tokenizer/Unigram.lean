import SequenceClassification.Entries
import SequenceClassification.Tokenizer.Piece

/-!
Unigram models. A text is cut into pieces so that the sum of their scores is the greatest; a character that
is no piece counts as unknown, at a lower score than any piece has. Main statement: whatever the scores
are, the segments found are the text.
-/
namespace SequenceClassification.Tokenizer

structure Segment where
  text : List Char
  known : Bool
deriving Repr, DecidableEq, Inhabited

structure Unigram where
  pieces : List String
  scores : List (List Char × Float32)
  unknownScore : Float32
  unknownIndex : Nat

namespace Unigram

def unknowns (pieces : List Piece) : List Nat :=
  (pieces.zipIdx.filter fun e => e.1.kind == .unknown).map Prod.snd

/-- The model with the given pieces, if no two are equal, none is empty, one is unknown and at least one
is normal. -/
def ofPieces? (pieces : List Piece) : Option Unigram :=
  let names := pieces.map Piece.text
  let scores := (pieces.filter fun p => p.kind == .normal).map fun p => (p.text.toList, p.score)
  match unknowns pieces, scores with
  | [unknown], first :: rest =>
    if decide names.Nodup && !names.contains "" then
      let lowest := rest.foldl (fun least e => if e.2 < least then e.2 else least) first.2
      some ⟨names, scores, lowest - 10, unknown⟩
    else none
  | _, _ => none

def spaceMark : Char := '\u2581'

def collapsed : List Char → List Char
  | ' ' :: ' ' :: s => collapsed (' ' :: s)
  | c :: s => c :: collapsed s
  | [] => []

/-- The text as pieces write it: behind a space mark, spaces as space marks, none of them repeated, none
at the end. -/
def marked (s : List Char) : List Char :=
  let s := collapsed (s.dropWhile (· == ' '))
  let s := spaceMark :: s.map fun c => if c == ' ' then spaceMark else c
  (s.reverse.dropWhile (· == spaceMark)).reverse

/-- A way to cut what stands before a place: the sum of its scores, and its segments, the last one
first. -/
structure Cutting where
  score : Float32
  segments : List Segment
deriving Inhabited

def Cutting.total (here : Cutting) (score : Float32) : Float := here.score.toFloat + score.toFloat

def Cutting.extend (here : Cutting) (score : Float32) (segment : Segment) : Cutting :=
  ⟨(here.total score).toFloat32, segment :: here.segments⟩

/-- The better of a cutting, if there is one, and a longer one: on a tie the former stays. -/
def improved (there : Option Cutting) (here : Cutting) (score : Float32) (segment : Segment) : Cutting :=
  match there with
  | none => here.extend score segment
  | some old => if here.total score > old.score.toFloat then here.extend score segment else old

def score? (m : Unigram) (text : List Char) : Option Float32 := Entries.get? text m.scores

def maxLength (m : Unigram) : Nat := m.scores.foldl (fun n e => max n e.1.length) 0

def next (m : Unigram) (here : Cutting) (there : Option Cutting) (c : Char) : Cutting :=
  match m.score? [c] with
  | some score => improved there here score ⟨[c], true⟩
  | none => improved there here m.unknownScore ⟨[c], false⟩

/-- The cuttings up to places further on, from the second character of `c :: s` on. A piece may lead
there from here. -/
def further (m : Unigram) (here : Cutting) (c : Char) (s : List Char) (ahead : List (Option Cutting)) :
    List (Option Cutting) :=
  (List.range (min (m.maxLength - 1) s.length)).map fun k =>
    let there := (ahead[k]?).getD none
    let text := c :: s.take (k + 1)
    match m.score? text with
    | some score => some (improved there here score ⟨text, true⟩)
    | none => there

/-- The best cutting of a text: `here` is the best one up to `s`, and `ahead` holds the best ones so far
up to the places after each character of `s`. -/
def bestFrom (m : Unigram) (here : Cutting) (ahead : List (Option Cutting)) : List Char → Cutting
  | [] => here
  | c :: s =>
    bestFrom m (m.next here (ahead.head?.getD none) c) (m.further here c s (ahead.drop 1)) s

def segments (m : Unigram) (s : List Char) : List Segment :=
  (m.bestFrom ⟨0, []⟩ [] s).segments.reverse

def merged : List Segment → List Segment
  | [] => []
  | a :: rest =>
    match merged rest with
    | [] => [a]
    | b :: rest => if !a.known && !b.known then ⟨a.text ++ b.text, false⟩ :: rest else a :: b :: rest

def encode (m : Unigram) (s : List Char) : List (List Char) :=
  (merged (m.segments (marked s))).map Segment.text

def indexOf (m : Unigram) (piece : String) : Nat := (m.pieces.idxOf? piece).getD m.unknownIndex

def Cutting.text (c : Cutting) : List Char := (c.segments.reverse.map Segment.text).flatten

theorem text_extend (here : Cutting) (score : Float32) (segment : Segment) :
    (here.extend score segment).text = here.text ++ segment.text := by
  simp [Cutting.text, Cutting.extend]

/-- Cuttings up to places ahead, each of which has consumed the text up to its place. -/
def Consumes (done s : List Char) (ahead : List (Option Cutting)) : Prop :=
  ∀ k old, ahead[k]? = some (some old) → old.text = done ++ s.take (k + 1)

theorem text_improved {there : Option Cutting} {here : Cutting} {score : Float32} {segment : Segment}
    (h : ∀ old, there = some old → old.text = here.text ++ segment.text) :
    (improved there here score segment).text = here.text ++ segment.text := by
  unfold improved
  split
  · exact text_extend _ _ _
  · split
    · exact text_extend _ _ _
    · exact h _ rfl

theorem text_next (m : Unigram) (here : Cutting) (there : Option Cutting) (c : Char)
    (h : ∀ old, there = some old → old.text = here.text ++ [c]) :
    (m.next here there c).text = here.text ++ [c] := by
  unfold next
  split <;> exact text_improved h

theorem consumes_further (m : Unigram) (here : Cutting) (c : Char) (s : List Char)
    (ahead : List (Option Cutting))
    (h : ∀ k old, ahead[k]? = some (some old) → old.text = here.text ++ c :: s.take (k + 1)) :
    Consumes (here.text ++ [c]) s (m.further here c s ahead) := by
  intro k old hk
  simp only [further, List.getElem?_map, Option.map_eq_some_iff] at hk
  obtain ⟨j, hj, hk⟩ := hk
  obtain ⟨_, rfl⟩ := List.getElem?_eq_some_iff.1 hj
  simp only [List.getElem_range] at hk
  have there : ∀ old, (ahead[k]?).getD none = some old →
      old.text = here.text ++ c :: s.take (k + 1) := by
    intro old hold
    cases ha : ahead[k]? with
    | none => simp [ha] at hold
    | some v => exact h k old (by rw [ha] at hold ⊢; simpa using hold)
  split at hk
  · simp only [Option.some.injEq] at hk
    rw [← hk, text_improved there]
    simp
  · rw [there old hk]
    simp

theorem text_bestFrom (m : Unigram) (s : List Char) (here : Cutting) (ahead : List (Option Cutting))
    (h : Consumes here.text s ahead) : (m.bestFrom here ahead s).text = here.text ++ s := by
  induction s generalizing here ahead with
  | nil => simp [bestFrom]
  | cons c s ih =>
    have hnext : (m.next here (ahead.head?.getD none) c).text = here.text ++ [c] := by
      refine text_next m here _ c fun old hold => ?_
      have := h 0 old (by
        cases ahead with
        | nil => simp at hold
        | cons a ahead => simpa using hold)
      simpa using this
    rw [bestFrom, ih]
    · rw [hnext]
      simp
    · rw [hnext]
      refine consumes_further m here c s _ fun k old hk => ?_
      have := h (k + 1) old (by simpa [List.getElem?_drop, Nat.add_comm] using hk)
      simpa using this

/-- The segments of a text are the text. -/
theorem flatten_segments (m : Unigram) (s : List Char) :
    ((m.segments s).map Segment.text).flatten = s := by
  have h := text_bestFrom m s ⟨0, []⟩ [] (by intro k old hk; simp at hk)
  simpa [Cutting.text, segments] using h

/-- Merging unknown segments keeps the text. -/
theorem flatten_merged (l : List Segment) :
    ((merged l).map Segment.text).flatten = (l.map Segment.text).flatten := by
  fun_induction merged l with
  | case1 => rfl
  | case2 a rest h ih => rw [h] at ih; simp at ih ⊢; exact ih
  | case3 a rest b l h _ ih => rw [h] at ih; simp at ih ⊢; rw [← ih]
  | case4 a rest b l h _ ih => rw [h] at ih; simp at ih ⊢; rw [← ih]

/-- The pieces of a text are the text as pieces write it. -/
theorem flatten_encode (m : Unigram) (s : List Char) : (m.encode s).flatten = marked s := by
  rw [encode, flatten_merged, flatten_segments]

end Unigram

end SequenceClassification.Tokenizer
