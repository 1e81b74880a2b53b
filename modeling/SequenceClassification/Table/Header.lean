/-!
Column names. A column without a name is named by its place, and a name that occurs again is numbered,
avoiding names that are taken. Named columns come before unnamed ones in this.
-/
namespace SequenceClassification.Table

abbrev NameCounts := List (String × Nat)

def NameCounts.get (counts : NameCounts) (name : String) : Nat :=
  ((List.find? (fun e => e.1 == name) counts).map Prod.snd).getD 0

def NameCounts.set (counts : NameCounts) (name : String) (n : Nat) : NameCounts :=
  (name, n) :: counts.filter fun e => e.1 != name

/-- The name that a repeated name becomes, and the counts after that. -/
def numbered (fuel : Nat) (names : List String) (old name : String) (n : Nat) (counts : NameCounts) :
    String × NameCounts :=
  match fuel with
  | 0 => (name, counts)
  | fuel + 1 =>
    if n == 0 then (name, counts)
    else
      let counts := counts.set old (n + 1)
      let name := old ++ "." ++ toString n
      if names.contains name then numbered fuel names old name (n + 1) counts
      else numbered fuel names old name (counts.get name) counts

def settle (state : List String × NameCounts) (i : Nat) : List String × NameCounts :=
  let (names, counts) := state
  let old := (names[i]?).getD ""
  let (name, counts) := numbered (2 * names.length + 2) names old old (counts.get old) counts
  (names.set i name, counts.set name (counts.get name + 1))

def placeName (i : Nat) : String := "Unnamed: " ++ toString i

def columnNames (fields : List String) : List String :=
  let names := fields.zipIdx.map fun (name, i) => if name.isEmpty then placeName i else name
  let unnamed := (List.range fields.length).filter fun i => fields[i]? == some ""
  let named := (List.range fields.length).filter fun i => fields[i]? != some ""
  ((named ++ unnamed).foldl settle (names, [])).1

end SequenceClassification.Table
