import SequenceClassification.Text.Blank
import SequenceClassification.Text.GeneralCategory
import SequenceClassification.Text.Split
import SequenceClassification.Text.Utf8
import SequenceClassification.Tokenizer.Subwords

/-!
Byte pairs. A text is cut into words, spaces and punctuation; each of these is written with one symbol per
octet, and neighbouring symbols are joined as long as a list of merges ranks one of the pairs, the pair of
the lowest rank first. Main statements: cutting into words loses nothing, and joining keeps the symbols.
-/
namespace SequenceClassification.Tokenizer.BytePair

/-- The symbol of an octet: the character with its code if that one can be seen, and one of those after
U+0100 otherwise. -/
def octetSymbol (b : Nat) : Char :=
  Char.ofNat (if b ≤ 32 then 256 + b else if b ≤ 126 then b else if b ≤ 160 then 162 + b
    else if b = 173 then 323 else b)

def symbols (s : List Char) : List String := (Text.utf8 s).map fun b => (octetSymbol b).toString

def shortEndings : List (List Char) := [['s'], ['t'], ['r', 'e'], ['v', 'e'], ['m'], ['l', 'l'], ['d']]

def isOther (c : Char) : Bool := !(Text.isWhiteSpace c || Text.isLetter c || Text.isNumber c)

def wordClasses : List (Char → Bool) := [Text.isLetter, Text.isNumber, isOther]

/-- How many characters after its first one the word at the front of `c :: s` has: an apostrophe with a
short ending; or a run of one class, after a space or not; or blanks, of which the last one is left to a
word after them. -/
def wordRest (c : Char) (s : List Char) : Nat :=
  match (if c == '\'' then shortEndings.find? (·.isPrefixOf s) else none) with
  | some ending => ending.length
  | none =>
    match wordClasses.find? (fun p => p c) with
    | some p => (s.takeWhile p).length
    | none =>
      match (if c == ' ' then s.head?.bind fun d => wordClasses.find? (fun p => p d) else none) with
      | some p => (s.takeWhile p).length
      | none =>
        let blanks := (s.takeWhile Text.isWhiteSpace).length
        if blanks = s.length then blanks else blanks - 1

def wordsFrom : Nat → List Char → List (List Char)
  | _, [] => []
  | 0, s => [s]
  | fuel + 1, c :: s =>
    let n := wordRest c s
    (c :: s.take n) :: wordsFrom fuel (s.drop n)

def words (s : List Char) : List (List Char) := wordsFrom s.length s

abbrev Merges := Entries (String × String) Nat

/-- The merges of a file: a line for each after the first one, the last line not counting. A later line
for the same pair gives its rank. -/
def merges (text : List Char) : Merges :=
  let lines := (Text.splitOnChar '\n' text).dropLast.drop 1
  Entries.ofPairs (lines.zipIdx.filterMap fun (line, i) =>
    match Text.words line with
    | [a, b] => some ((String.ofList a, String.ofList b), i)
    | _ => none)

def neighbours : List String → List (String × String)
  | a :: b :: rest => (a, b) :: neighbours (b :: rest)
  | _ => []

def best (merges : Merges) (pairs : List (String × String)) : Option (Nat × String × String) :=
  pairs.foldl (fun found pair =>
    match Entries.get? pair merges, found with
    | none, _ => found
    | some rank, none => some (rank, pair)
    | some rank, some (least, other) => if rank < least then some (rank, pair) else some (least, other))
    none

def join (pair : String × String) : List String → List String
  | a :: b :: rest =>
    if a = pair.1 ∧ b = pair.2 then (a ++ b) :: join pair rest else a :: join pair (b :: rest)
  | rest => rest

def joinAll (merges : Merges) : Nat → List String → List String
  | 0, parts => parts
  | fuel + 1, parts =>
    match best merges (neighbours parts) with
    | none => parts
    | some (_, pair) => joinAll merges fuel (join pair parts)

def wordPieces (merges : Merges) (word : List Char) : List String :=
  let parts := symbols word
  joinAll merges parts.length parts

def subwords (vocabulary : Entries String TokenId) (unknown : String) (merges : Merges) : Subwords where
  vocabulary := vocabulary
  pieces s := (words s).flatMap (wordPieces merges)
  idOf := Subwords.idOrUnknown vocabulary unknown

theorem flatten_wordsFrom (fuel : Nat) (s : List Char) : (wordsFrom fuel s).flatten = s := by
  fun_induction wordsFrom fuel s with
  | case1 => rfl
  | case2 => simp
  | case3 fuel c s n ih => simp [ih]

/-- Cutting a text into words loses nothing. -/
theorem flatten_words (s : List Char) : (words s).flatten = s := flatten_wordsFrom _ _

/-- Joining a pair keeps the symbols and their order. -/
theorem joined_join (pair : String × String) (parts : List String) :
    String.join (join pair parts) = String.join parts := by
  have key : ∀ (l : List String) (acc : String), l.foldl (· ++ ·) acc = acc ++ l.foldl (· ++ ·) "" := by
    intro l
    induction l with
    | nil => simp
    | cons a l ih =>
      intro acc
      simp only [List.foldl_cons]
      rw [ih (acc ++ a), ih ("" ++ a)]
      simp [String.append_assoc]
  fun_induction join pair parts with
  | case1 a b rest _ ih =>
    simp only [String.join, List.foldl_cons] at ih ⊢
    rw [key _ ("" ++ (a ++ b)), ih, key _ ("" ++ a ++ b)]
    simp [String.append_assoc]
  | case2 a b rest _ ih =>
    simp only [String.join, List.foldl_cons] at ih ⊢
    rw [key _ ("" ++ a), ih, key _ ("" ++ a ++ b), key _ ("" ++ b)]
    simp [String.append_assoc]
  | case3 => rfl

/-- The pieces of a word are its symbols, joined. -/
theorem joined_joinAll (merges : Merges) (fuel : Nat) (parts : List String) :
    String.join (joinAll merges fuel parts) = String.join parts := by
  fun_induction joinAll merges fuel parts with
  | case1 => rfl
  | case2 => rfl
  | case3 fuel parts _ pair _ ih => rw [ih, joined_join]

end SequenceClassification.Tokenizer.BytePair
