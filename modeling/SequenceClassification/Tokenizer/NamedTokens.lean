import SequenceClassification.Entries
import SequenceClassification.Text.Blank
import SequenceClassification.Text.LowerCase
import SequenceClassification.Tokenizer.Subwords

/-!
Tokens that are known by name. They are cut out of a text before the rest of it is cut into pieces, and
they are never cut themselves. Main statements: cutting loses nothing, and a token that is
added is found under its id.
-/
namespace SequenceClassification.Tokenizer

/-- A named token, and whether it takes in the blanks on its left and on its right. -/
structure NamedToken where
  text : String
  stripLeft : Bool := false
  stripRight : Bool := false
deriving Repr, DecidableEq, Inhabited

/-- Named tokens and their ids. Two names may share an id; the id then stands for the later one. -/
structure NamedTokens where
  byId : Entries TokenId NamedToken := []
  ids : Entries String TokenId := []
deriving Repr, DecidableEq, Inhabited

namespace NamedTokens

def add (t : NamedToken) (id : TokenId) (n : NamedTokens) : NamedTokens :=
  ⟨Entries.put id t n.byId, Entries.put t.text id n.ids⟩

/-- Adds tokens: one that the vocabulary has keeps its id there, any other gets the next id from `next`
on. -/
def addAll (vocabulary : Entries String TokenId) (next : Int) : List NamedToken → NamedTokens → NamedTokens
  | [], n => n
  | t :: rest, n =>
    match Entries.get? t.text vocabulary with
    | some id => addAll vocabulary next rest (n.add t id)
    | none => addAll vocabulary (next + 1) rest (n.add t (.whole next))

def id? (s : String) (n : NamedTokens) : Option TokenId := Entries.get? s n.ids

/-- The token that the id of a name stands for. -/
def find? (s : String) (n : NamedTokens) : Option NamedToken :=
  (n.id? s).bind fun id => Entries.get? id n.byId

def names (n : NamedTokens) : List (List Char) := n.byId.map fun e => e.2.text.toList

/-- A token that has been added is found under its id. -/
theorem id?_add (t : NamedToken) (id : TokenId) (n : NamedTokens) : (n.add t id).id? t.text = some id := by
  simp [id?, add, Entries.get?_put_self]

end NamedTokens

/-- The length of the longest of the names that `s` starts with; zero if it starts with none. -/
def longestName (names : List (List Char)) (s : List Char) : Nat :=
  names.foldl (fun n name => if name.isPrefixOf s then max n name.length else n) 0

def flushed (run : List Char) : List (List Char) := if run.isEmpty then [] else [run.reverse]

/-- Cuts `s`, which stands after the characters `run` that belong to no name, the nearest first; `fuel`
is at least the length of `s`. -/
def cutFrom (names : List (List Char)) : Nat → List Char → List Char → List (List Char)
  | _, run, [] => flushed run
  | 0, run, s => flushed (s.reverse ++ run)
  | fuel + 1, run, c :: s =>
    match longestName names (c :: s) with
    | 0 => cutFrom names fuel (c :: run) s
    | n + 1 => flushed run ++ (c :: s.take n) :: cutFrom names fuel [] (s.drop n)

def cut (names : List (List Char)) (s : List Char) : List (List Char) := cutFrom names s.length [] s

def lowerAround (names : List (List Char)) (s : List Char) : List Char :=
  (cut names s).flatMap fun part => if names.contains part then part else part.flatMap Text.lowerChar

/-- Trims the parts beside named tokens that take in blanks; `before` is the token on the left. -/
def trimmed (n : NamedTokens) (before : Option NamedToken) : List (List Char) → List (List Char)
  | [] => []
  | part :: rest =>
    match n.find? (String.ofList part) with
    | some t => part :: trimmed n (some t) rest
    | none =>
      let after := rest.head?.bind fun next => n.find? (String.ofList next)
      let part := if (before.map NamedToken.stripRight).getD false then Text.trimLeft part else part
      let part := if (after.map NamedToken.stripLeft).getD false then Text.trimRight part else part
      part :: trimmed n none rest

theorem flatten_flushed (run : List Char) : (flushed run).flatten = run.reverse := by
  cases run <;> simp [flushed]

theorem flatten_cutFrom (names : List (List Char)) (fuel : Nat) (run s : List Char) :
    (cutFrom names fuel run s).flatten = run.reverse ++ s := by
  fun_induction cutFrom names fuel run s with
  | case1 => simp [flatten_flushed]
  | case2 => simp [flatten_flushed]
  | case3 fuel run c s _ ih => simp [ih]
  | case4 fuel run c s n _ ih => simp [ih, flatten_flushed]

/-- Cutting a text loses nothing. -/
theorem flatten_cut (names : List (List Char)) (s : List Char) : (cut names s).flatten = s := by
  simp [cut, flatten_cutFrom]

/-- Trimming keeps the number of parts. -/
theorem length_trimmed (n : NamedTokens) (before : Option NamedToken) (parts : List (List Char)) :
    (trimmed n before parts).length = parts.length := by
  fun_induction trimmed n before parts <;> simp_all

end SequenceClassification.Tokenizer
