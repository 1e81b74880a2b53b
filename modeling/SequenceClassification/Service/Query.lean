import SequenceClassification.Decimal.FloatText
import SequenceClassification.Service.Complaint

/-!
Queries: what a valid body asks for. A body is an object with a non-empty list of texts and, where several
labels are asked for, a threshold that is not below zero. Every complaint is reported, those about the texts
first. Main statements: texts are accepted exactly when they are a non-empty list of strings, and a body is
either accepted or has a complaint.
-/
namespace SequenceClassification.Service

inductive Query where
  | single (texts : List CodePoints)
  | multi (texts : List CodePoints) (threshold : Float)
deriving Inhabited

inductive Mode where
  | single
  | multi
deriving Repr, DecidableEq, Inhabited

namespace Query

def defaultThreshold : Float := 0.5

def textsPath : List Step := [.member "texts"]

def thresholdPath : List Step := [.member "threshold"]

def itemComplaints (i : Nat) : List Wire → List Complaint
  | [] => []
  | .str _ :: rest => itemComplaints (i + 1) rest
  | v :: rest => ⟨.noString, textsPath ++ [.item i], v⟩ :: itemComplaints (i + 1) rest

def textsComplaints (body : Wire) : List Complaint :=
  match body.field? "texts" with
  | none => [⟨.missing, textsPath, body⟩]
  | some (.arr []) => [⟨.tooShort, textsPath, .arr []⟩]
  | some (.arr items) => itemComplaints 0 items
  | some v => [⟨.noList, textsPath, v⟩]

def textsOf (body : Wire) : List CodePoints :=
  (((body.field? "texts").bind Wire.arr?).getD []).filterMap Wire.str?

def asNumber : Wire → Except Defect Float
  | .bool b => .ok (if b then 1 else 0)
  | .float x => .ok x
  | .int n =>
    let x := Decimal.intToFloat n
    if x.isFinite then .ok x else .error .noNumber
  | .str s =>
    match s.string? with
    | none => .error .noCharacters
    | some text => (Decimal.readFloat? text).elim (.error .noNumeral) .ok
  | _ => .error .noNumber

/-- The threshold of a body. What is no number is not at least zero. -/
def threshold (body : Wire) : Except Complaint Float :=
  match body.field? "threshold" with
  | none => .ok defaultThreshold
  | some v =>
    match asNumber v with
    | .error d => .error ⟨d, thresholdPath, v⟩
    | .ok x => if 0 ≤ x then .ok x else .error ⟨.belowZero, thresholdPath, v⟩

def ofObject (mode : Mode) (body : Wire) : Except (List Complaint) Query :=
  let complaints := textsComplaints body
  match mode, threshold body with
  | .single, _ => if complaints.isEmpty then .ok (.single (textsOf body)) else .error complaints
  | .multi, .ok x => if complaints.isEmpty then .ok (.multi (textsOf body) x) else .error complaints
  | .multi, .error c => .error (complaints ++ [c])

def ofBody (mode : Mode) : Option Wire → Except (List Complaint) Query
  | none => .error [⟨.missing, [], .null⟩]
  | some (.obj fields) => ofObject mode (.obj fields)
  | some v => .error [⟨.noObject, [], v⟩]

/-- Items give no complaint exactly when each of them is a string. -/
theorem itemComplaints_eq_nil_iff (i : Nat) (items : List Wire) :
    itemComplaints i items = [] ↔ ∃ texts : List CodePoints, items = texts.map .str := by
  fun_induction itemComplaints i items with
  | case1 => exact ⟨fun _ => ⟨[], rfl⟩, fun _ => rfl⟩
  | case2 i s rest ih =>
    rw [ih]
    constructor
    · rintro ⟨texts, rfl⟩
      exact ⟨s :: texts, rfl⟩
    · rintro ⟨texts, h⟩
      obtain ⟨t, texts, rfl, -, hrest⟩ := List.map_eq_cons_iff.1 h.symm
      exact ⟨texts, hrest.symm⟩
  | case3 i v rest hv ih =>
    refine ⟨nofun, ?_⟩
    rintro ⟨texts, h⟩
    obtain ⟨t, texts, rfl, ht, -⟩ := List.map_eq_cons_iff.1 h.symm
    exact (hv t ht.symm).elim

/-- Texts that are strings are read as they stand. -/
theorem textsOf_of_field {body : Wire} {texts : List CodePoints}
    (h : body.field? "texts" = some (.arr (texts.map .str))) : textsOf body = texts := by
  simp [textsOf, h, Wire.arr?, List.filterMap_map, Function.comp_def, Wire.str?]

/-- The texts of a body give no complaint exactly when they are a non-empty list of strings. -/
theorem textsComplaints_eq_nil_iff (body : Wire) :
    textsComplaints body = [] ↔ ∃ texts : List CodePoints, texts ≠ [] ∧
      body.field? "texts" = some (.arr (texts.map .str)) := by
  unfold textsComplaints
  split
  · rename_i h
    simp [h]
  · rename_i h
    refine ⟨nofun, ?_⟩
    rintro ⟨texts, hne, htexts⟩
    rw [h, Option.some.injEq, Wire.arr.injEq, eq_comm, List.map_eq_nil_iff] at htexts
    exact absurd htexts hne
  · rename_i items hitems h
    rw [itemComplaints_eq_nil_iff, h]
    constructor
    · rintro ⟨texts, rfl⟩
      refine ⟨texts, ?_, rfl⟩
      rintro rfl
      exact hitems rfl
    · rintro ⟨texts, -, htexts⟩
      exact ⟨texts, Wire.arr.inj (Option.some.inj htexts)⟩
  · rename_i v hempty hlist h
    refine ⟨nofun, ?_⟩
    rintro ⟨texts, -, htexts⟩
    rw [h] at htexts
    exact (hlist _ (Option.some.inj htexts)).elim

/-- A refused body has a complaint. -/
theorem ofBody_error_ne_nil {mode : Mode} {body : Option Wire} {cs : List Complaint}
    (h : ofBody mode body = .error cs) : cs ≠ [] := by
  unfold ofBody at h
  split at h
  · cases h; simp
  · unfold ofObject at h
    simp only at h
    split at h
    · split at h
      · cases h
      · next hc => cases h; simpa [List.isEmpty_iff] using hc
    · split at h
      · cases h
      · next hc => cases h; simpa [List.isEmpty_iff] using hc
    · cases h; simp
  · cases h; simp

end Query

end SequenceClassification.Service
