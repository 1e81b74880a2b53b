import SequenceClassification.Configuration.File
import SequenceClassification.Proofs.Configuration.Building

/-!
The failures of loading a configuration that are of another class than its own. Of reading the file only
JSON that is nested too deep escapes, and of building the configuration from the members of its object
everything does. Main statement: these are the only two ways, whatever it is that builds configurations, and
what is built is of the kind of the family.
-/
namespace SequenceClassification

namespace Json

/-- The members of an object that is read have distinct names. -/
theorem nodup_keys_of_read {levels : ℕ} {text : List Char} {fields : List (String × Json)}
    (h : read levels text = .ok (.obj fields)) : (Entries.keys fields).Nodup := by
  obtain ⟨v, -, hv⟩ := map_eq_ok h
  cases v with
  | obj members =>
    rw [Wire.toJson] at hv
    obtain rfl := Json.obj.inj hv
    exact Entries.nodup_keys_ofPairs _
  | _ => cases hv

end Json

namespace ModelConfig

/-- The file holds a JSON value that can be read where `levels` levels of nesting can. -/
def Holds (levels : ℕ) (content : FileContent) (v : Json) : Prop :=
  ∃ text, content.text = .ok text ∧ Json.read levels text = .ok v

/-- The file declares another family. What declares nothing, or null, does not. -/
def DeclaresOther (family : Family) (fields : Entries String Json) : Prop :=
  ∃ v, Entries.get? "model_type" fields = some v ∧ v ≠ .null ∧ v ≠ .str family.tag

/-- The failures of another class than those of loading: JSON that is nested too deep to be read, and
whatever comes of building the configuration from the members of the object in the file. -/
inductive StrayFailure (builder : Builder) (levels : ℕ) (family : Family) (content : FileContent) :
    Failure → Prop
  | tooDeep (text : List Char) (r : Json.Refusal) (htext : content.text = .ok text)
      (hread : Json.read levels text = .error r) (hdeep : r.fault.isDepth = true) :
      StrayFailure builder levels family content ⟨.recursion, r.message text⟩
  | unbuildable (fields : Entries String Json) (e : Failure) (hfile : Holds levels content (.obj fields))
      (hdeclared : ¬ DeclaresOther family fields) (hbuild : builder family fields = .error e) :
      StrayFailure builder levels family content e

/-- What is relied on of a builder for members with distinct names: its configurations are of the kind of the
family and come of no misshapen member, and its failures are none of the pipeline. -/
def Builder.IsSound (builder : Builder) : Prop :=
  ∀ family fields, (Entries.keys fields).Nodup → Yields (builder family fields)
    (fun c => c.kind = .ofFamily family ∧ ¬ Configuration.Misshapen family fields) (·.isOwn = false)

section
variable {builder : Builder} {levels : ℕ} {family : Family} {content : FileContent}

theorem Holds.nodup_keys {fields : Entries String Json} (h : Holds levels content (.obj fields)) :
    (Entries.keys fields).Nodup := by
  obtain ⟨text, -, hread⟩ := h
  exact Json.nodup_keys_of_read hread

theorem Holds.readValue_eq {v : Json} (h : Holds levels content v) (path : String) :
    readValue levels path content = .ok v := by
  obtain ⟨text, htext, hread⟩ := h
  simp only [readValue, htext, hread]

theorem readValue_yields (builder : Builder) (levels : ℕ) (family : Family) (path : String)
    (content : FileContent) :
    Yields (readValue levels path content) (Holds levels content)
      (fun e => e.kind = .own .modelConfig ∨ StrayFailure builder levels family content e) := by
  unfold readValue
  cases htext : content.text with
  | error fault => exact .inl rfl
  | ok text =>
    dsimp only
    cases hread : Json.read levels text with
    | ok v => exact ⟨text, htext, hread⟩
    | error r =>
      dsimp only
      split
      · rename_i hdeep
        exact .inr (.tooDeep text r htext hread hdeep)
      · exact .inl rfl

/-- A file is refused for its family exactly if it declares another one. -/
theorem checkDeclared_yields (family : Family) (path : String) (fields : Entries String Json) :
    Yields (checkDeclared family path ((Entries.get? "model_type" fields).getD .null))
      (fun _ => ¬ DeclaresOther family fields)
      (fun e => DeclaresOther family fields ∧ e.kind = .own .modelTypeMismatch) := by
  cases hv : Entries.get? "model_type" fields with
  | none =>
    rintro ⟨v, hv', -⟩
    cases hv.symm.trans hv'
  | some v =>
    have hother : DeclaresOther family fields ↔ v ≠ .null ∧ v ≠ .str family.tag := by
      simp [DeclaresOther, hv]
    rw [hother, Option.getD_some]
    unfold checkDeclared
    split
    · exact fun h => h.1 rfl
    · rename_i hnull
      split
      · rename_i htag
        rintro ⟨-, hne⟩
        cases v with
        | str s => exact hne (congrArg Json.str (by simpa [Json.str?] using htag))
        | _ => cases htag
      · rename_i htag
        refine ⟨⟨hnull, ?_⟩, rfl⟩
        rintro rfl
        exact htag (by simp [Json.str?])

theorem fromFileBy_yields (builder : Builder) (levels : ℕ) (family : Family) (path : String)
    (content : FileContent) :
    Yields (fromFileBy builder levels family path content)
      (fun m => m.family = family ∧ ∃ fields, Holds levels content (.obj fields) ∧
        ¬ DeclaresOther family fields ∧ builder family fields = .ok m.configuration)
      (fun e => (e.kind = .own .modelConfig ∨ e.kind = .own .modelTypeMismatch) ∨
        StrayFailure builder levels family content e) := by
  refine Yields.bind ((readValue_yields builder levels family path content).mono_right
    fun e he => he.imp_left .inl) fun v hv => ?_
  cases v with
  | obj fields =>
    refine Yields.bind ((checkDeclared_yields family path fields).mono_right ?_)
      fun _ hdeclared => ?_
    · exact fun e he => .inl (.inr he.2)
    · cases hbuilt : builder family fields with
      | ok c => exact ⟨rfl, fields, hv, hdeclared, hbuilt⟩
      | error e => exact .inr (.unbuildable fields e hv hdeclared hbuilt)
  | _ => exact .inl (.inl rfl)

theorem StrayFailure.fromFileBy_eq {e : Failure} (h : StrayFailure builder levels family content e)
    (path : String) : fromFileBy builder levels family path content = .error e := by
  cases h with
  | tooDeep text r htext hread hdeep =>
    simp only [fromFileBy, readValue, htext, hread, hdeep]
    rfl
  | unbuildable fields e hfile hdeclared hbuild =>
    have hcheck := checkDeclared_yields family path fields
    cases hpassed : checkDeclared family path ((Entries.get? "model_type" fields).getD .null) with
    | error e => exact absurd (hcheck.of_error hpassed).1 hdeclared
    | ok u =>
      simp only [fromFileBy, hfile.readValue_eq path, ok_bind, hpassed, hbuild]
      rfl

theorem StrayFailure.isOwn_eq (hbuilder : builder.IsSound) {e : Failure}
    (h : StrayFailure builder levels family content e) : e.isOwn = false := by
  cases h with
  | tooDeep => rfl
  | unbuildable fields e hfile hdeclared hbuild => exact (hbuilder family fields hfile.nodup_keys).of_error hbuild

/-- Let there be anything that builds configurations and is sound. What is loaded has the tag and the kind of
the family, and it is what was built of the object in the file. Loading fails with other classes than its own
exactly if the file holds JSON that is too deep, or an object that declares no other family and of which no
configuration is built; the failure then is that of reading or of building. So it fails for every object that
declares no other family and has a misshapen member. -/
theorem fromFileBy_stray_iff (hbuilder : builder.IsSound) (levels : ℕ) (family : Family) (path : String)
    (content : FileContent) :
    (∀ m, fromFileBy builder levels family path content = .ok m →
      m.family = family ∧ m.configuration.kind = .ofFamily family ∧
      ∃ fields, Holds levels content (.obj fields) ∧ ¬ DeclaresOther family fields ∧
        builder family fields = .ok m.configuration) ∧
    (∀ e, (fromFileBy builder levels family path content = .error e ∧ e.kind ≠ .own .modelConfig ∧
      e.kind ≠ .own .modelTypeMismatch) ↔ StrayFailure builder levels family content e) ∧
    ∀ fields, Holds levels content (.obj fields) → ¬ DeclaresOther family fields →
      Configuration.Misshapen family fields →
      ∃ e, fromFileBy builder levels family path content = .error e ∧
        StrayFailure builder levels family content e := by
  have hresult := fromFileBy_yields builder levels family path content
  refine ⟨fun m hm => ?_, fun e => ⟨?_, fun h => ?_⟩, fun fields hfile hdeclared hshape => ?_⟩
  · obtain ⟨hfamily, fields, hfile, hdeclared, hbuilt⟩ := hresult.of_ok hm
    exact ⟨hfamily, ((hbuilder family fields hfile.nodup_keys).of_ok hbuilt).1, fields, hfile, hdeclared, hbuilt⟩
  · rintro ⟨he, hconfig, hmismatch⟩
    obtain hown | hstray := hresult.of_error he
    · exact (hown.elim hconfig hmismatch).elim
    · exact hstray
  · have hforeign := h.isOwn_eq hbuilder
    refine ⟨h.fromFileBy_eq path, ?_, ?_⟩
    all_goals
      intro hkind
      rw [Failure.isOwn, hkind] at hforeign
      cases hforeign
  · cases hbuilt : builder family fields with
    | ok c => exact absurd hshape ((hbuilder family fields hfile.nodup_keys).of_ok hbuilt).2
    | error e =>
      have hstray : StrayFailure builder levels family content e := .unbuildable fields e hfile hdeclared hbuilt
      exact ⟨e, hstray.fromFileBy_eq path, hstray⟩

end

/-- The builder of a pipeline is sound. -/
theorem isSound_ofObject : Builder.IsSound fun family => Configuration.ofObject (.ofFamily family) :=
  fun family _ hn => Configuration.ofObject_yields family hn

/-- A file that gives a label text to a class whose id is a letter. -/
def letteredFile : FileContent :=
  .octets [123, 34, 105, 100, 50, 108, 97, 98, 101, 108, 34, 58, 123, 34, 97, 34, 58, 34, 120, 34, 125, 125]

def letteredFields : Entries String Json := [("id2label", .obj [("a", .str "x")])]

theorem fromFileBy_of_letteredFile :
    fromFile 990 .bert "config.json" letteredFile =
      .error (.invalidValue "invalid literal for int() with base 10: 'a'") ∧
    Configuration.Misshapen .bert letteredFields := by
  have hfile : Holds 990 letteredFile (.obj letteredFields) := ⟨_, rfl, rfl⟩
  have hdeclared : ¬ DeclaresOther .bert letteredFields := by
    rintro ⟨v, hv, -⟩
    cases hv
  have hbuild : Configuration.ofObject (.ofFamily .bert) letteredFields =
      .error (.invalidValue "invalid literal for int() with base 10: 'a'") := rfl
  have hshape : Configuration.Misshapen .bert letteredFields := by
    refine .labelTexts (.obj [("a", .str "x")]) rfl ?_
    rintro (h | ⟨fields, h, hids⟩)
    · cases h
    · obtain rfl := Json.obj.inj h
      obtain ⟨id, hid⟩ := hids "a" (List.mem_singleton.2 rfl)
      cases hid
  obtain ⟨-, hstray, -⟩ := fromFileBy_stray_iff isSound_ofObject 990 .bert "config.json" letteredFile
  exact ⟨((hstray _).2 (.unbuildable letteredFields _ hfile hdeclared hbuild)).1, hshape⟩

end ModelConfig

end SequenceClassification
