import SequenceClassification.Json.Value

/-!
Values as JSON text writes them. An escape may name half of a surrogate pair, which is no character, so the
strings here are made of code points. What is read from a file becomes a value with strings of characters, in
which a character for private use stands for such a half; what comes in a request stays as it is. Main
statement: with a value every part of it can be written.
-/
namespace SequenceClassification

/-- A code point: that of a character, or half of a surrogate pair, counted from the first one. -/
inductive CodePoint where
  | char (c : Char)
  | half (n : Fin 0x800)
deriving Repr, DecidableEq, Inhabited

namespace CodePoint

def char? : CodePoint → Option Char
  | .char c => some c
  | .half _ => none

def standIn : CodePoint → Char
  | .char c => c
  | .half n => Json.surrogate (0xD800 + n)

end CodePoint

abbrev CodePoints := List CodePoint

namespace CodePoints

def ofString (s : String) : CodePoints := s.toList.map .char

def string? (s : CodePoints) : Option String := (s.mapM CodePoint.char?).map String.ofList

def standIn (s : CodePoints) : String := String.ofList (s.map CodePoint.standIn)

end CodePoints

inductive Wire where
  | null
  | bool (b : Bool)
  | int (n : Int)
  | float (x : Float)
  | str (s : CodePoints)
  | arr (items : List Wire)
  | obj (fields : List (CodePoints × Wire))
deriving Inhabited

namespace Wire

def field? (name : String) : Wire → Option Wire
  | .obj fields => Entries.get? (CodePoints.ofString name) fields
  | _ => none

def str? : Wire → Option CodePoints
  | .str s => some s
  | _ => none

def arr? : Wire → Option (List Wire)
  | .arr items => some items
  | _ => none

mutual

/-- The value with strings of characters. Of members whose names become the same only the last is kept. -/
def toJson : Wire → Json
  | .null => .null
  | .bool b => .bool b
  | .int n => .int n
  | .float x => .float x
  | .str s => .str s.standIn
  | .arr items => .arr (toJsonItems items)
  | .obj fields => .obj (Entries.ofPairs (toJsonFields fields))

def toJsonItems : List Wire → List Json
  | [] => []
  | v :: rest => toJson v :: toJsonItems rest

def toJsonFields : List (CodePoints × Wire) → List (String × Json)
  | [] => []
  | (name, v) :: rest => (name.standIn, toJson v) :: toJsonFields rest

end

mutual

def ofJson : Json → Wire
  | .null => .null
  | .bool b => .bool b
  | .int n => .int n
  | .float x => .float x
  | .str s => .str (.ofString s)
  | .arr items => .arr (ofJsonItems items)
  | .obj fields => .obj (ofJsonFields fields)

def ofJsonItems : List Json → List Wire
  | [] => []
  | v :: rest => ofJson v :: ofJsonItems rest

def ofJsonFields : List (String × Json) → List (CodePoints × Wire)
  | [] => []
  | (name, v) :: rest => (.ofString name, ofJson v) :: ofJsonFields rest

end

mutual

/-- Whether a value has a text that every reader understands: its numbers are finite, and its strings and the
names in it consist of characters. -/
def isPlain : Wire → Bool
  | .float x => x.isFinite
  | .str s => s.string?.isSome
  | .arr items => itemsPlain items
  | .obj fields => fieldsPlain fields
  | _ => true

def itemsPlain : List Wire → Bool
  | [] => true
  | v :: rest => isPlain v && itemsPlain rest

def fieldsPlain : List (CodePoints × Wire) → Bool
  | [] => true
  | (name, v) :: rest => name.string?.isSome && isPlain v && fieldsPlain rest

end

mutual

def nesting : Wire → Nat
  | .arr items => nestingItems items + 1
  | .obj fields => nestingFields fields + 1
  | _ => 0

def nestingItems : List Wire → Nat
  | [] => 0
  | v :: rest => max (nesting v) (nestingItems rest)

def nestingFields : List (CodePoints × Wire) → Nat
  | [] => 0
  | (_, v) :: rest => max (nesting v) (nestingFields rest)

end

def isWritable (levels : Nat) (v : Wire) : Bool := v.isPlain && decide (v.nesting ≤ levels)

section
variable {levels : Nat} {v w : Wire}

theorem isWritable_iff : v.isWritable levels = true ↔ v.isPlain = true ∧ v.nesting ≤ levels := by
  rw [isWritable, Bool.and_eq_true, decide_eq_true_eq]

/-- What can be written can be written item by item. -/
theorem isWritable_of_mem {items : List Wire} (h : (arr items).isWritable levels = true) (hv : v ∈ items) :
    v.isWritable levels = true := by
  rw [isWritable_iff] at h ⊢
  obtain ⟨hplain, hnesting⟩ := h
  change itemsPlain items = true at hplain
  change nestingItems items + 1 ≤ levels at hnesting
  induction items with
  | nil => cases hv
  | cons w rest ih =>
    simp only [itemsPlain, Bool.and_eq_true] at hplain
    simp only [nestingItems] at hnesting
    rcases List.mem_cons.1 hv with rfl | hv
    · exact ⟨hplain.1, by omega⟩
    · exact ih hv hplain.2 (by omega)

/-- What can be written can be written member by member. -/
theorem isWritable_of_field? {name : String} (h : v.isWritable levels = true) (hw : v.field? name = some w) :
    w.isWritable levels = true := by
  cases v with
  | obj fields =>
    rw [isWritable_iff] at h ⊢
    obtain ⟨hplain, hnesting⟩ := h
    change fieldsPlain fields = true at hplain
    change nestingFields fields + 1 ≤ levels at hnesting
    change Entries.get? (CodePoints.ofString name) fields = some w at hw
    induction fields with
    | nil => cases hw
    | cons field rest ih =>
      obtain ⟨key, value⟩ := field
      simp only [fieldsPlain, Bool.and_eq_true] at hplain
      simp only [nestingFields] at hnesting
      rw [Entries.get?] at hw
      split at hw
      · obtain rfl := Option.some.inj hw
        exact ⟨hplain.1.2, by omega⟩
      · exact ih hplain.2 (by omega) hw
  | null | bool _ | int _ | float _ | str _ | arr _ => cases hw

end

end Wire

end SequenceClassification
