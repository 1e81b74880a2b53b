import SequenceClassification.Text.Blank
import SequenceClassification.Text.GeneralCategory
import SequenceClassification.Text.LowerCase
import SequenceClassification.Text.Normalization
import SequenceClassification.Text.Split
import SequenceClassification.Tokenizer.Subwords

/-!
Word pieces. A text is cleaned and cut into words and punctuation; a word is then cut from the left into
the longest pieces that the vocabulary has, a piece inside a word being written behind two hashes. A word
that cannot be cut up this way is unknown as a whole. Main statement: cutting at punctuation loses nothing.
-/
namespace SequenceClassification.Tokenizer.WordPiece

def lines (text : List Char) : List (List Char) :=
  let parts := Text.splitOnChar '\n' text
  if parts.getLast? == some [] then parts.dropLast else parts

/-- The pieces of a vocabulary file, each with the number of the last line that holds it. -/
def vocabulary (text : List Char) : Entries String TokenId :=
  Entries.ofPairs ((lines text).zipIdx.map fun (line, i) => (String.ofList line, .whole i))

/-- The characters that words are dropped of: controls other than line ends and tabs, and U+FFFD. -/
def isDropped (c : Char) : Bool :=
  c == '\ufffd' || (Text.isControl c && !(c == '\t' || c == '\n' || c == '\r'))

def isGap (c : Char) : Bool := c == '\t' || c == '\n' || c == '\r' || Text.isSpaceSeparator c

def ideographRanges : List (Nat × Nat) :=
  [(0x4E00, 0x9FFF), (0x3400, 0x4DBF), (0x20000, 0x2A6DF), (0x2A700, 0x2B73F), (0x2B740, 0x2B81F),
    (0x2B820, 0x2CEAF), (0xF900, 0xFAFF), (0x2F800, 0x2FA1F)]

def isIdeograph (c : Char) : Bool :=
  ideographRanges.any fun r => decide (r.1 ≤ c.toNat) && decide (c.toNat ≤ r.2)

/-- The text without dropped characters, its gaps spaces, and each ideograph between two spaces. -/
def cleaned (s : List Char) : List Char :=
  (s.filter fun c => !isDropped c).flatMap fun c =>
    if isGap c then [' '] else if isIdeograph c then [' ', c, ' '] else [c]

def isMark (c : Char) : Bool :=
  let n := c.toNat
  (33 ≤ n && n ≤ 47) || (58 ≤ n && n ≤ 64) || (91 ≤ n && n ≤ 96) || (123 ≤ n && n ≤ 126) ||
    Text.isPunctuation c

def splitMarks : List Char → List (List Char)
  | [] => []
  | c :: s =>
    match splitMarks s with
    | (d :: run) :: rest =>
      if isMark c || isMark d then [c] :: (d :: run) :: rest else (c :: d :: run) :: rest
    | rest => [c] :: rest

def accentless (s : List Char) : List Char :=
  (Text.canonicalDecomposed s).filter fun c => !Text.isNonspacingMark c

/-- Lower-cases a word and takes its accents away, as far as it is asked for. Lower-casing takes accents
away too unless that is refused. -/
def folded (lowerCase : Bool) (stripAccents : Option Bool) (word : List Char) : List Char :=
  let word := if lowerCase then Text.lower word else word
  if stripAccents.getD lowerCase then accentless word else word

def words (lowerCase : Bool) (stripAccents : Option Bool) (kept : List (List Char)) (s : List Char) :
    List (List Char) :=
  ((Text.words (Text.canonicalComposed (cleaned s))).flatMap fun w =>
    if kept.contains w then [w] else splitMarks (folded lowerCase stripAccents w)).flatMap Text.words

/-- The longest front of `s`, of at most the given length, that the vocabulary has behind `lead`. -/
def longestFront (vocabulary : Entries String TokenId) (lead s : List Char) : Nat → Option Nat
  | 0 => none
  | n + 1 =>
    if Entries.has (String.ofList (lead ++ s.take (n + 1))) vocabulary then some (n + 1)
    else longestFront vocabulary lead s n

/-- Cuts `s` into pieces, the first one written behind `lead`; `fuel` is at least the length of `s`. -/
def cutWord (vocabulary : Entries String TokenId) : Nat → List Char → List Char → Option (List String)
  | _, _, [] => some []
  | 0, _, _ :: _ => none
  | fuel + 1, lead, s =>
    match longestFront vocabulary lead s s.length with
    | none => none
    | some n =>
      (cutWord vocabulary fuel ['#', '#'] (s.drop n)).map (String.ofList (lead ++ s.take n) :: ·)

def maxWordLength : Nat := 100

def wordPieces (vocabulary : Entries String TokenId) (unknown : String) (word : List Char) : List String :=
  if word.length > maxWordLength then [unknown]
  else (cutWord vocabulary word.length [] word).getD [unknown]

def subwords (vocabulary : Entries String TokenId) (unknown : String) (lowerCase : Bool)
    (stripAccents : Option Bool) (kept : List (List Char)) : Subwords where
  vocabulary := vocabulary
  pieces s := (words lowerCase stripAccents kept s).flatMap (wordPieces vocabulary unknown)
  idOf := Subwords.idOrUnknown vocabulary unknown

/-- Cutting at punctuation loses nothing. -/
theorem flatten_splitMarks (s : List Char) : (splitMarks s).flatten = s := by
  fun_induction splitMarks s with
  | case1 => rfl
  | case2 c s d run rest h _ ih => rw [h] at ih; simpa using ih
  | case3 c s d run rest h _ ih => rw [h] at ih; simpa using ih
  | case4 c s _ ih => simp [ih]

/-- A front that the vocabulary has is not longer than allowed, and not empty. -/
theorem longestFront_bounds {vocabulary : Entries String TokenId} {lead s : List Char} {m n : Nat}
    (h : longestFront vocabulary lead s m = some n) : 0 < n ∧ n ≤ m := by
  induction m with
  | zero => simp [longestFront] at h
  | succ m ih =>
    simp only [longestFront] at h
    split at h
    · simp only [Option.some.injEq] at h
      omega
    · have := ih h
      omega

end SequenceClassification.Tokenizer.WordPiece
