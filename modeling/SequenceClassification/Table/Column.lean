import SequenceClassification.Json.Value
import SequenceClassification.Slices
import SequenceClassification.Table.Number

/-!
Columns of a table. A long column is read in parts. The cells of a part are read alike: as whole numbers if
all of them are, else as decimals, else as truth values, else as texts. Some texts mean that a cell is
missing, and missing cells do not count; with one of them whole numbers become decimals. Beside a whole
number that only fits unsigned, nothing is missing: there the cells are texts, whatever they mean. Last, the
values of the parts are brought to a common kind. Main statement: a column has as many values as cells.
-/
namespace SequenceClassification.Table

def missingTexts : List String :=
  ["", "#N/A", "#N/A N/A", "#NA", "-1.#IND", "-1.#QNAN", "-NaN", "-nan", "1.#IND", "1.#QNAN", "<NA>", "N/A",
    "NA", "NULL", "NaN", "None", "n/a", "nan", "null"]

def isMissing (cell : List Char) : Bool := missingTexts.contains (String.ofList cell)

/-- The kinds of values. Objects are values of any kind beside each other. -/
inductive Kind where
  | truth
  | signed
  | unsigned
  | decimal
  | object
deriving Repr, DecidableEq

namespace Kind

def join : Kind → Kind → Kind
  | .object, _ | _, .object => .object
  | .decimal, _ | _, .decimal => .decimal
  | .signed, .unsigned | .unsigned, .signed => .decimal
  | .signed, _ | _, .signed => .signed
  | .unsigned, _ | _, .unsigned => .unsigned
  | .truth, .truth => .truth

def joinAll (kinds : List Kind) : Kind := kinds.foldr join .truth

def cast : Kind → Json → Json
  | .signed, .bool b | .unsigned, .bool b => .int (if b then 1 else 0)
  | .decimal, .bool b => .float (if b then 1 else 0)
  | .decimal, .int n => .float (Decimal.intToFloat n)
  | _, v => v

end Kind

structure Part where
  kind : Kind
  values : List (Option Json)

/-- Reads every cell that is not missing, if that is possible for all of them. -/
def readAll {α : Type} (read : List Char → Option α) (cells : List (List Char)) :
    Option (List (Option α)) :=
  cells.mapM fun cell => if isMissing cell then some none else (read cell).map some

def firstFault {α : Type} (read : List Char → Except WholeFault α) (cells : List (List Char)) :
    Option WholeFault :=
  cells.findSome? fun cell =>
    if isMissing cell then none
    else match read cell with
      | .error f => some f
      | .ok _ => none

def asTexts (cells : List (List Char)) : Part :=
  ⟨.object, cells.map fun cell => if isMissing cell then none else some (.str (String.ofList cell))⟩

def asKeptTexts (cells : List (List Char)) : Part :=
  ⟨.object, cells.map fun cell => some (.str (String.ofList cell))⟩

def asDecimals (cells : List (List Char)) : Part :=
  match readAll floatCell cells with
  | some xs => ⟨.decimal, xs.map fun x => x.map .float⟩
  | none =>
    match readAll truthCell cells with
    | some bs => ⟨if bs.all Option.isSome then .truth else .object, bs.map fun b => b.map .bool⟩
    | none => asTexts cells

/-- The decimal of a whole number beside a missing cell. The least of them is what missing cells are marked
with. -/
def markedDecimal (n : Int) : Option Json :=
  let x := Decimal.intToFloat n
  if x == Decimal.intToFloat (-(maxSigned + 1)) then none else some (.float x)

/-- Whole numbers as values; with a cell missing they are decimals. -/
def wholePart (ns : List (Option Int)) : Part :=
  if ns.all Option.isSome then ⟨.signed, ns.map fun n => n.map .int⟩
  else ⟨.decimal, ns.map fun n => n.bind markedDecimal⟩

def isLarge (cell : List Char) : Bool :=
  match unsignedCell cell with
  | .ok (some n) => maxSigned < n
  | _ => false

/-- The cells as unsigned numbers, where signed ones do not suffice. Minus signs and missing cells leave
texts. -/
def asUnsigned (cells : List (List Char)) : Part :=
  match firstFault unsignedCell cells with
  | some .noNumber => asDecimals cells
  | some .outOfRange => asTexts cells
  | none =>
    match cells.mapM fun cell => (unsignedCell cell).toOption.join with
    | some ns => ⟨.unsigned, ns.map fun (n : Nat) => some (.int n)⟩
    | none => if cells.any isLarge then asKeptTexts cells else asTexts cells

def readPart (cells : List (List Char)) : Part :=
  match firstFault signedCell cells with
  | some .noNumber => asDecimals cells
  | some .outOfRange => asUnsigned cells
  | none =>
    match readAll (fun cell => (signedCell cell).toOption) cells with
    | some ns => wholePart ns
    | none => asTexts cells

def united (parts : List Part) : List (Option Json) :=
  let kind := Kind.joinAll (parts.map Part.kind)
  parts.flatMap fun p => p.values.map fun v => v.map kind.cast

/-- How many rows of a given number of fields are read together: the greatest power of two below a fixed
number of cells. -/
def rowsTogether (width : Nat) : Nat := Decimal.twoTo (Nat.log2 (Decimal.twoTo 20 / width - 1))

/-- The values of a column of which a given number of rows is read together. -/
def columnValues (together : Nat) (cells : List (List Char)) : List (Option Json) :=
  united ((slicesOf (together - 1) cells).map readPart)

theorem rowsTogether_two : rowsTogether 2 = 262144 := by decide

/-- A column of which all rows are read together is one part. -/
theorem columnValues_of_length_le {together : Nat} {cells : List (List Char)} (hne : cells ≠ [])
    (h : cells.length ≤ together) :
    columnValues together cells = united [readPart cells] := by
  rw [columnValues, slicesOf_of_length_le hne (by omega)]
  rfl

theorem length_mapM {α β : Type} {f : α → Option β} {xs : List α} {ys : List β} (h : xs.mapM f = some ys) :
    ys.length = xs.length := by
  induction xs generalizing ys with
  | nil =>
    rw [List.mapM_nil] at h
    cases h
    rfl
  | cons x xs ih =>
    simp only [List.mapM_cons, bind, Option.bind_eq_some_iff, pure, Option.some.injEq] at h
    obtain ⟨y, -, zs, hzs, rfl⟩ := h
    simp [ih hzs]

theorem length_readAll {α : Type} {read : List Char → Option α} {cells : List (List Char)}
    {vs : List (Option α)} (h : readAll read cells = some vs) : vs.length = cells.length := length_mapM h

section
variable (cells : List (List Char))

theorem length_asTexts : (asTexts cells).values.length = cells.length := by simp [asTexts]

theorem length_asDecimals : (asDecimals cells).values.length = cells.length := by
  unfold asDecimals
  split
  · rename_i xs h
    simp [length_readAll h]
  · split
    · rename_i bs h
      simp [length_readAll h]
    · exact length_asTexts cells

theorem length_asUnsigned : (asUnsigned cells).values.length = cells.length := by
  unfold asUnsigned
  split
  · exact length_asDecimals cells
  · exact length_asTexts cells
  · split
    · rename_i ns h
      simp [length_mapM h]
    · split
      · simp [asKeptTexts]
      · exact length_asTexts cells

theorem length_readPart : (readPart cells).values.length = cells.length := by
  unfold readPart
  split
  · exact length_asDecimals cells
  · exact length_asUnsigned cells
  · split
    · rename_i ns h
      unfold wholePart
      split <;> simp [length_readAll h]
    · exact length_asTexts cells

/-- A column has as many values as cells. -/
theorem length_columnValues (together : Nat) : (columnValues together cells).length = cells.length := by
  have hparts : ∀ p : List (List Char), ((readPart p).values.map fun v =>
      v.map (Kind.joinAll (((slicesOf (together - 1) cells).map readPart).map Part.kind)).cast).length =
        p.length := fun p => by rw [List.length_map, length_readPart]
  have hcells := congrArg List.length (flatten_slicesOf (together - 1) cells)
  rw [List.length_flatten] at hcells
  rw [columnValues, united, List.flatMap_map, List.length_flatMap, ← hcells]
  simp only [hparts]

end

end SequenceClassification.Table
