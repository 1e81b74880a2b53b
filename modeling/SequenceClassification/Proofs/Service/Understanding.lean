import Mathlib
import SequenceClassification.Service.Basic

/-!
Understanding a request. A posted body of JSON is read as a value, and the value is a query if it is valid:
an object with texts and, where several labels are asked for, a threshold. Main statements: a value is read
as a query exactly when it is valid, and complaints about a value that can be written can be written.
-/
namespace SequenceClassification.Service

/-! ### Valid bodies -/

/-- The texts of a value: a list of strings that is not empty. -/
def HasTexts (v : Wire) (texts : List CodePoints) : Prop :=
  texts ≠ [] ∧ v.field? "texts" = some (.arr (texts.map .str))

/-- The threshold of a value: what can be taken for a number and is at least zero, or one half. -/
def HasThreshold (v : Wire) (x : Float) : Prop :=
  v.field? "threshold" = none ∧ x = 0.5 ∨
    ∃ w, v.field? "threshold" = some w ∧ Query.asNumber w = .ok x ∧ 0 ≤ x

/-- The query that a valid value asks. -/
inductive Asks : Mode → Wire → Query → Prop
  | single {v : Wire} {texts : List CodePoints} (htexts : HasTexts v texts) : Asks .single v (.single texts)
  | multi {v : Wire} {texts : List CodePoints} {x : Float} (htexts : HasTexts v texts)
      (hthreshold : HasThreshold v x) : Asks .multi v (.multi texts x)

theorem threshold_eq_ok_iff {v : Wire} {x : Float} : Query.threshold v = .ok x ↔ HasThreshold v x := by
  constructor
  · intro h
    unfold Query.threshold at h
    split at h
    · rename_i hnone
      exact .inl ⟨hnone, (Except.ok.inj h).symm⟩
    · rename_i w hw
      split at h
      · cases h
      · rename_i y hy
        split at h
        · rename_i hlow
          obtain rfl := Except.ok.inj h
          exact .inr ⟨w, hw, hy, hlow⟩
        · cases h
  · rintro (⟨hnone, rfl⟩ | ⟨w, hw, hnumber, hlow⟩)
    · rw [Query.threshold, hnone]
      rfl
    · simp only [Query.threshold, hw, hnumber, if_pos hlow]

/-- Texts without complaints are the texts of the value. -/
theorem hasTexts_textsOf {v : Wire} (h : (Query.textsComplaints v).isEmpty = true) :
    HasTexts v (Query.textsOf v) := by
  obtain ⟨texts, htexts⟩ := (Query.textsComplaints_eq_nil_iff v).1 (List.isEmpty_iff.1 h)
  exact (Query.textsOf_of_field htexts.2).symm ▸ htexts

/-- An object is read as a query exactly when it is valid. -/
theorem ofObject_eq_ok_iff {mode : Mode} {v : Wire} {q : Query} :
    Query.ofObject mode v = .ok q ↔ Asks mode v q := by
  constructor
  · intro h
    unfold Query.ofObject at h
    cases mode with
    | single =>
      dsimp only at h
      split at h
      · rename_i hnil
        obtain rfl := Except.ok.inj h
        exact .single (hasTexts_textsOf hnil)
      · cases h
    | multi =>
      cases hthreshold : Query.threshold v with
      | error c =>
        rw [hthreshold] at h
        cases h
      | ok x =>
        rw [hthreshold] at h
        dsimp only at h
        split at h
        · rename_i hnil
          obtain rfl := Except.ok.inj h
          exact .multi (hasTexts_textsOf hnil) (threshold_eq_ok_iff.1 hthreshold)
        · cases h
  · intro h
    cases h with
    | single htexts =>
      have hnil := (Query.textsComplaints_eq_nil_iff v).2 ⟨_, htexts⟩
      simp [Query.ofObject, hnil, Query.textsOf_of_field htexts.2]
    | multi htexts hthreshold =>
      have hnil := (Query.textsComplaints_eq_nil_iff v).2 ⟨_, htexts⟩
      simp [Query.ofObject, hnil, Query.textsOf_of_field htexts.2, threshold_eq_ok_iff.2 hthreshold]

theorem Asks.texts {mode : Mode} {v : Wire} {q : Query} (h : Asks mode v q) : ∃ texts, HasTexts v texts := by
  cases h with
  | single htexts => exact ⟨_, htexts⟩
  | multi htexts _ => exact ⟨_, htexts⟩

/-- The value that a body of JSON stands for; null stands for none. -/
def present : Wire → Option Wire
  | .null => none
  | v => some v

/-- A value is read as a query exactly when it is valid: only objects have texts. -/
theorem ofBody_present_eq_ok_iff {mode : Mode} {v : Wire} {q : Query} :
    Query.ofBody mode (present v) = .ok q ↔ Asks mode v q := by
  cases v with
  | obj fields => exact ofObject_eq_ok_iff
  | null | bool _ | int _ | float _ | str _ | arr _ =>
    refine ⟨nofun, fun h => ?_⟩
    obtain ⟨texts, -, hfield⟩ := h.texts
    cases hfield

/-! ### Understanding a request -/

/-- A request with a body of JSON at the route of a mode. -/
structure Posted (mode : Mode) (r : Request) : Prop where
  verb : r.verb = "POST"
  route : Route.ofPath? r.path = some (.labels mode)
  type : isJsonType r.contentType = true

/-- What the reader makes of the body of a request. -/
def reading (levels : Levels) (r : Request) : Except Json.Refusal Wire :=
  Json.readWire levels.reading (dropMark r.body.toList)

section
variable {levels : Levels} {mode : Mode} {r : Request}

theorem readWire_nil (levels : ℕ) : Json.readWire levels [] = .error ⟨.expectingValue, 0⟩ := rfl

theorem readBody_of_json (htype : isJsonType r.contentType = true)
    (hread : reading levels r ≠ .error ⟨.expectingValue, 0⟩) :
    readBody levels.reading r.contentType r.body = (readJson levels.reading (dropMark r.body.toList)).map present := by
  have hbody : ¬ r.body.isEmpty = true := by
    intro hempty
    rw [String.isEmpty_iff] at hempty
    rw [reading, hempty] at hread
    exact hread (readWire_nil _)
  rw [readBody, if_neg hbody, if_pos htype]
  rfl

theorem readBody_of_reading (htype : isJsonType r.contentType = true) {v : Wire}
    (hread : reading levels r = .ok v) : readBody levels.reading r.contentType r.body = .ok (present v) := by
  rw [readBody_of_json htype (by simp [hread])]
  rw [reading] at hread
  rw [readJson, hread]
  rfl

theorem readBody_of_excessive (htype : isJsonType r.contentType = true) {e : Json.Refusal}
    (hread : reading levels r = .error e) (hplace : e.fault.hasPlace = false) :
    readBody levels.reading r.contentType r.body = .error .excessive := by
  have hvalue : reading levels r ≠ .error ⟨.expectingValue, 0⟩ := by
    intro hvalue
    obtain rfl := Except.error.inj (hvalue.symm.trans hread)
    cases hplace
  rw [readBody_of_json htype hvalue]
  rw [reading] at hread
  rw [readJson, hread]
  simp only [hplace]
  rfl

theorem understand_of_posted (h : Posted mode r) :
    understand levels r = (understandQuery levels mode r).map Call.query := by
  simp [understand, h.route, h.verb, Route.method]

theorem answer_of_posted (h : Posted mode r) (s : Service) :
    s.answer levels r = match understandQuery levels mode r with
      | .error refusal => refusal
      | .ok q => s.performQuery q := by
  rw [answer, understand_of_posted h, h.verb]
  cases understandQuery levels mode r <;> rfl

/-- What is refused is refused before a service is asked. -/
theorem understand_of_refused (h : Posted mode r) {refusal : Response}
    (hquery : understandQuery levels mode r = .error refusal) (s : Service) :
    understand levels r = .error (s.answer levels r) := by
  rw [answer_of_posted h, understand_of_posted h, hquery]
  rfl

end

/-! ### Complaints -/

theorem found_mem_of_itemComplaints {items : List Wire} {i : ℕ} {c : Complaint}
    (h : c ∈ Query.itemComplaints i items) : c.found ∈ items := by
  fun_induction Query.itemComplaints i items with
  | case1 => cases h
  | case2 i s rest ih => exact List.mem_cons_of_mem _ (ih h)
  | case3 i v rest hv ih =>
    rcases List.mem_cons.1 h with rfl | h
    · exact List.mem_cons_self ..
    · exact List.mem_cons_of_mem _ (ih h)

section
variable {levels : ℕ} {v : Wire} (hv : v.isWritable levels = true)
include hv

theorem isWritable_of_textsComplaints {c : Complaint} (h : c ∈ Query.textsComplaints v) :
    c.isWritable levels = true := by
  unfold Query.textsComplaints at h
  split at h
  · obtain rfl := List.mem_singleton.1 h
    exact hv
  · rename_i hfield
    obtain rfl := List.mem_singleton.1 h
    exact Wire.isWritable_of_field? hv hfield
  · rename_i items _ hfield
    exact Wire.isWritable_of_mem (Wire.isWritable_of_field? hv hfield) (found_mem_of_itemComplaints h)
  · rename_i hfield
    obtain rfl := List.mem_singleton.1 h
    exact Wire.isWritable_of_field? hv hfield

theorem isWritable_of_threshold {c : Complaint} (h : Query.threshold v = .error c) : c.isWritable levels = true := by
  unfold Query.threshold at h
  split at h
  · cases h
  · rename_i w hfield
    split at h
    · obtain rfl := Except.error.inj h
      exact Wire.isWritable_of_field? hv hfield
    · split at h
      · cases h
      · obtain rfl := Except.error.inj h
        exact Wire.isWritable_of_field? hv hfield

theorem isWritable_of_ofObject {mode : Mode} {cs : List Complaint} (h : Query.ofObject mode v = .error cs) :
    ∀ c ∈ cs, c.isWritable levels = true := by
  have htexts : ∀ c ∈ Query.textsComplaints v, c.isWritable levels = true := fun c hc =>
    isWritable_of_textsComplaints hv hc
  unfold Query.ofObject at h
  dsimp only at h
  split at h
  · split at h
    · cases h
    · obtain rfl := Except.error.inj h
      exact htexts
  · split at h
    · cases h
    · obtain rfl := Except.error.inj h
      exact htexts
  · rename_i c hthreshold
    obtain rfl := Except.error.inj h
    intro c' hc'
    rcases List.mem_append.1 hc' with hc' | hc'
    · exact htexts c' hc'
    · obtain rfl := List.mem_singleton.1 hc'
      exact isWritable_of_threshold hv hthreshold

/-- A complaint about a body that can be written repeats nothing that cannot. -/
theorem isWritable_of_ofBody {mode : Mode} {cs : List Complaint}
    (h : Query.ofBody mode (present v) = .error cs) : cs.all (Complaint.isWritable levels) = true := by
  rw [List.all_eq_true]
  cases v with
  | obj fields => exact isWritable_of_ofObject hv h
  | null | bool _ | int _ | float _ | str _ | arr _ =>
    obtain rfl := Except.error.inj h
    intro c hc
    obtain rfl := List.mem_singleton.1 hc
    exact hv

end

end SequenceClassification.Service
