import SequenceClassification.Text.Split

/-!
Paths of files. A path is written in one way: repeated separators and components that stay in place are
dropped, components that go up are kept. Main statement: no component of a written path is empty or stays
in place.
-/
namespace SequenceClassification.Path

def components (s : List Char) : List (List Char) :=
  (Text.splitOnChar '/' s).filter fun part => !part.isEmpty && part != ['.']

/-- The leading separators of a path: none, one, or exactly two. -/
def root (s : List Char) : List Char :=
  match s.takeWhile (· == '/') with
  | [] => []
  | [_, _] => ['/', '/']
  | _ => ['/']

def joined (root : List Char) (parts : List (List Char)) : List Char :=
  match root, parts with
  | [], [] => ['.']
  | root, parts => root ++ List.intercalate ['/'] parts

def normalize (path : String) : String :=
  String.ofList (joined (root path.toList) (components path.toList))

def fileName (path : String) : List Char := ((components path.toList).getLast?).getD []

/-- The extension of the last component with its dot. A dot that begins or ends the name starts none. -/
def suffix (path : String) : String :=
  let name := fileName path
  let after := (name.reverse.takeWhile (· != '.')).reverse
  if after.isEmpty || name.length ≤ after.length + 1 then "" else String.ofList ('.' :: after)

/-- No component is empty or a dot, and none holds a separator. -/
theorem of_mem_components {s part : List Char} (h : part ∈ components s) :
    part ≠ [] ∧ part ≠ ['.'] ∧ '/' ∉ part := by
  simp only [components, List.mem_filter, Bool.and_eq_true, Bool.not_eq_true', bne_iff_ne, ne_eq,
    List.isEmpty_eq_false_iff] at h
  exact ⟨h.2.1, h.2.2, Text.not_mem_of_mem_splitOnChar h.1⟩

end SequenceClassification.Path
