import SequenceClassification.Configuration.Build
import SequenceClassification.Proofs.Lookup
import SequenceClassification.Proofs.Outcome

/-!
Shapes that given attributes cannot have. Most attributes may hold anything; those of the labels, the problem
type, the heads to prune and, for one family, the feed-forward projection have shapes to keep to. Main
statement: of a misshapen attribute no configuration comes, and what is built is of the kind of the family.
-/
namespace SequenceClassification.Configuration

/-- A table or nothing. -/
def IsTable (v : Json) : Prop := v = .null ∨ ∃ fields, v = .obj fields

/-- A known problem type or nothing. -/
def IsProblem (v : Json) : Prop := v = .null ∨ ∃ s ∈ problemTypes, v = .str s

/-- A number of labels or nothing. Truth values count as zero and one. -/
def IsCount (v : Json) : Prop := v = .null ∨ (∃ n, v = .int n) ∨ ∃ b, v = .bool b

/-- The text of a whole number. -/
def IsId (text : String) : Prop := ∃ id, Decimal.readInteger text = .ok id

/-- A table whose names are whole numbers, or nothing. -/
def IsNumbered (v : Json) : Prop := v = .null ∨ ∃ fields, v = .obj fields ∧ ∀ name ∈ Entries.keys fields, IsId name

/-- The name of an activation, or one behind the mark of gating. -/
def IsProjection (s : String) : Prop :=
  ∃ activation : List Char, '-' ∉ activation ∧
    (s.toList = activation ∨ s.toList = "gated".toList ++ '-' :: activation)

/-- A given attribute has a shape that no configuration of the family can have. -/
inductive Misshapen (family : Family) (given : Entries String Json) : Prop
  | projection (v : Json) (hfamily : family = .t5) (hv : Entries.get? "feed_forward_proj" given = some v)
      (hform : ∀ s, v = .str s → ¬ IsProjection s)
  | labelIds (v : Json) (hv : Entries.get? "label2id" given = some v) (htable : ¬ IsTable v)
  | labelTexts (v : Json) (hv : Entries.get? "id2label" given = some v) (hnumbered : ¬ IsNumbered v)
  | problem (v : Json) (hv : Entries.get? "problem_type" given = some v) (hproblem : ¬ IsProblem v)
  | count (v : Json) (hnone : (Entries.get? "id2label" given).getD .null = .null)
      (hv : Entries.get? "num_labels" given = some v) (hcount : ¬ IsCount v)
  | heads (v : Json) (hv : Entries.get? "pruned_heads" given = some v) (hnumbered : ¬ IsNumbered v)

theorem checkTable_yields (name : String) (v : Json) :
    Yields (checkTable name v) (fun _ => IsTable v) (·.isOwn = false) := by
  cases v with
  | null => exact .inl rfl
  | obj fields => exact .inr ⟨fields, rfl⟩
  | _ => rfl

theorem checkProblem_yields (v : Json) :
    Yields (checkProblem v) (fun _ => IsProblem v) (·.isOwn = false) := by
  cases v with
  | null => exact .inl rfl
  | str s =>
    unfold checkProblem
    dsimp only
    split
    · rename_i hknown
      exact .inr ⟨s, by simpa using hknown, rfl⟩
    · rfl
  | _ => rfl

theorem requestedLabels_yields (v : Json) :
    Yields (requestedLabels v) (fun _ => IsCount v) (·.isOwn = false) := by
  cases v with
  | null => exact .inl rfl
  | int n => exact .inr (.inl ⟨n, rfl⟩)
  | bool b => exact .inr (.inr ⟨b, rfl⟩)
  | _ => rfl

theorem readTable_yields (fields : List (String × Json)) :
    Yields (readTable fields) (fun _ => ∀ text ∈ Entries.keys fields, IsId text) (·.isOwn = false) := by
  have hentry : ∀ field, Yields (readTable.readEntry field) (fun _ => IsId field.1) (·.isOwn = false) := by
    intro field
    unfold readTable.readEntry
    cases hread : Decimal.readInteger field.1 with
    | ok id => exact ⟨id, hread⟩
    | error fault => rfl
  unfold readTable
  cases hall : fields.mapM readTable.readEntry with
  | error e =>
    have hentries := Yields.mapM (R := fun _ => True) fun field (_ : field ∈ fields) =>
      (hentry field).mono (fun _ _ => trivial) fun _ h => h
    exact hentries.of_error hall
  | ok bs =>
    intro text htext
    obtain ⟨field, hfield, rfl⟩ := List.mem_map.1 htext
    obtain ⟨b, hb⟩ := exists_mapM_eq_ok_iff.1 ⟨bs, hall⟩ field hfield
    exact (hentry field).of_ok hb

/-- Where there is no table of label texts, the number of labels is asked for. -/
theorem labelsOf_yields (given : Entries String Json) :
    Yields (labelsOf given)
      (fun _ => (∀ fields, Entries.get? "id2label" given = some (.obj fields) →
          ∀ text ∈ Entries.keys fields, IsId text) ∧
        ((∀ fields, Entries.get? "id2label" given ≠ some (.obj fields)) →
          IsCount ((Entries.get? "num_labels" given).getD .null)))
      (·.isOwn = false) := by
  unfold labelsOf
  split
  · rename_i fields htable
    refine (readTable_yields fields).mono (fun _ hids => ⟨?_, fun hnone => absurd htable (hnone fields)⟩)
      fun _ he => he
    intro fields' htable'
    rw [htable] at htable'
    cases htable'
    exact hids
  · rename_i hnone
    refine Yields.map (requestedLabels_yields _) fun _ h => ?_
    exact ⟨fun fields htable => absurd htable (hnone fields), fun _ => h⟩

theorem prunedHeads_yields (v : Json) : Yields (prunedHeads v) (fun _ => IsNumbered v) (·.isOwn = false) := by
  cases v with
  | null => exact .inl rfl
  | obj fields => exact (readTable_yields fields).mono (fun _ h => .inr ⟨fields, rfl, h⟩) fun _ he => he
  | _ => rfl

theorem checkSelf_yields (k : ConfigKind) (given : Entries String Json) :
    Yields (checkSelf k given) (fun _ => True) (·.isOwn = false) := by
  unfold checkSelf
  split
  · rfl
  · trivial

theorem checkFollowing_yields (k : ConfigKind) (given : Entries String Json) :
    Yields (checkFollowing k given) (fun _ => True) (·.isOwn = false) := by
  unfold checkFollowing
  split
  · rfl
  · trivial

theorem checkNumberType_yields (given : Entries String Json) :
    Yields (checkNumberType given) (fun _ => True) (·.isOwn = false) := by
  unfold checkNumberType
  dsimp only
  split
  · split
    · trivial
    · rfl
  · trivial

theorem splitOnChar_gated (activation : List Char) (h : '-' ∉ activation) :
    Text.splitOnChar '-' ("gated".toList ++ '-' :: activation) = ["gated".toList, activation] := by
  rw [Text.splitOnChar_append (by decide), Text.splitOnChar_of_not_mem h]

/-- A projection in parts: a single one, or two of which the first is the mark of gating. -/
theorem isProjection_iff (s : String) :
    IsProjection s ↔ (Text.splitOnChar '-' s.toList).length = 1 ∨
      (Text.splitOnChar '-' s.toList).length = 2 ∧
        (Text.splitOnChar '-' s.toList).head? = some "gated".toList := by
  constructor
  · rintro ⟨activation, hplain, hs | hs⟩
    · exact .inl (by rw [hs, Text.splitOnChar_of_not_mem hplain]; rfl)
    · exact .inr (by rw [hs, splitOnChar_gated activation hplain]; exact ⟨rfl, rfl⟩)
  · have hjoined := Text.intercalate_splitOnChar '-' s.toList
    have hplain := fun piece => @Text.not_mem_of_mem_splitOnChar '-' s.toList piece
    generalize Text.splitOnChar '-' s.toList = parts at hjoined hplain
    rintro (hone | ⟨htwo, hhead⟩)
    · obtain ⟨activation, rfl⟩ := List.length_eq_one_iff.1 hone
      exact ⟨activation, hplain activation (by simp), .inl (by simpa [List.intercalate] using hjoined.symm)⟩
    · obtain ⟨first, activation, rfl⟩ := List.length_eq_two.1 htwo
      obtain rfl : first = "gated".toList := by simpa using hhead
      exact ⟨activation, hplain activation (by simp), .inr (by simpa [List.intercalate] using hjoined.symm)⟩

theorem head?_map_ofList_eq_iff (parts : List (List Char)) (s : String) :
    (parts.map String.ofList).head? = some s ↔ parts.head? = some s.toList := by
  cases parts with
  | nil => simp
  | cons first rest => simp [String.ext_iff]

theorem projection_yields (v : Json) :
    Yields (projection v) (fun _ => ∃ s, v = .str s ∧ IsProjection s) (·.isOwn = false) := by
  cases v with
  | str s =>
    have hhead := head?_map_ofList_eq_iff (Text.splitOnChar '-' s.toList) "gated"
    -- there is a part at least, so what is not refused is in one part, or in two of which the first is the mark
    have hsome := List.length_pos_iff.2 (Text.splitOnChar_ne_nil '-' s.toList)
    unfold projection
    dsimp only
    split
    · rfl
    · rename_i hgood
      refine ⟨s, rfl, (isProjection_iff s).2 ?_⟩
      simp only [List.length_map, Bool.or_eq_true, Bool.and_eq_true, decide_eq_true_eq,
        Bool.not_eq_true', beq_eq_false_iff_ne, ne_eq, hhead, not_or, not_and, not_not] at hgood
      by_cases hone : (Text.splitOnChar '-' s.toList).length = 1
      · exact .inl hone
      · exact .inr ⟨by omega, hgood.2 (by omega)⟩
  | _ => rfl

section
variable {family : Family} {given : Entries String Json}

/-- The declared attributes: defaults, and what is given instead. -/
def declaredOf (k : ConfigKind) (given : Entries String Json) : Entries String Json :=
  Entries.ofPairs (ConfigKind.common ++ k.defaults ++
    given.filter fun p => Entries.has p.1 ConfigKind.common || Entries.has p.1 k.defaults)

/-- A declared attribute has the value that is given, or else its default. -/
theorem get?_declaredOf {k : ConfigKind} (hn : (Entries.keys given).Nodup) {name : String}
    (hname : (Entries.has name ConfigKind.common || Entries.has name k.defaults) = true) :
    Entries.get? name (declaredOf k given) = (Entries.get? name given).or
      (Entries.get? name (Entries.ofPairs (ConfigKind.common ++ k.defaults))) := by
  rw [declaredOf, Entries.get?_ofPairs_append _ (Entries.nodup_keys_filter hn _),
    Entries.get?_filter_of_key (q := fun name => Entries.has name ConfigKind.common ||
      Entries.has name k.defaults) hname]

/-- Attributes that every kind leaves open have the value that is given, or none. -/
theorem get?_declaredOf_of_open {k : ConfigKind} (hn : (Entries.keys given).Nodup) {name : String}
    (hcommon : Entries.get? name ConfigKind.common = some .null)
    (hkind : name ∉ Entries.keys k.defaults) :
    (Entries.get? name (declaredOf k given)).getD .null = (Entries.get? name given).getD .null := by
  have hdefault : Entries.get? name (Entries.ofPairs (ConfigKind.common ++ k.defaults)) = some .null := by
    rw [Entries.get?_ofPairs_append_of_not_mem _ hkind, Entries.get?_ofPairs,
      Entries.get?_reverse (by decide), hcommon]
  rw [get?_declaredOf hn (by simp [Entries.has, hcommon]), hdefault]
  cases Entries.get? name given <;> rfl

theorem get?_projection_declaredOf (hn : (Entries.keys given).Nodup) :
    (Entries.get? "feed_forward_proj" (declaredOf (.ofFamily .t5) given)).getD .null =
      (Entries.get? "feed_forward_proj" given).getD (.str "relu") := by
  have hdefault : Entries.get? "feed_forward_proj"
      (Entries.ofPairs (ConfigKind.common ++ (ConfigKind.ofFamily .t5).defaults)) =
      some (.str "relu") := by
    rw [Entries.get?_ofPairs_append _ (by decide)]
    rfl
  rw [get?_declaredOf hn (by decide), hdefault]
  cases Entries.get? "feed_forward_proj" given <;> rfl

theorem labelNames_not_mem_defaults (family : Family) :
    "label2id" ∉ Entries.keys (ConfigKind.ofFamily family).defaults ∧
    "id2label" ∉ Entries.keys (ConfigKind.ofFamily family).defaults ∧
    "problem_type" ∉ Entries.keys (ConfigKind.ofFamily family).defaults := by
  cases family <;> decide

/-- Only the family with a feed-forward projection can fail to derive its attributes. -/
theorem derived_yields (family : Family) (hn : (Entries.keys given).Nodup) :
    Yields (derived (.ofFamily family) (declaredOf (.ofFamily family) given))
      (fun _ => family = .t5 → ∃ s, IsProjection s ∧
        (Entries.get? "feed_forward_proj" given).getD (.str "relu") = .str s)
      (·.isOwn = false) := by
  unfold derived
  rw [ConfigKind.tag_ofFamily]
  dsimp only
  split
  · rename_i htag
    obtain rfl : family = .t5 := Family.tag_injective (beq_iff_eq.1 htag)
    rw [get?_projection_declaredOf hn]
    refine Yields.map (projection_yields _) fun _ h _ => ?_
    obtain ⟨s, hs, hform⟩ := h
    exact ⟨s, hform, hs⟩
  · rename_i htag
    have hfamily : family ≠ .t5 := fun h => htag (by rw [h]; rfl)
    split
    · exact fun h => absurd h hfamily
    · exact fun h => absurd h hfamily

theorem labelsOf_given_yields (family : Family) (hn : (Entries.keys given).Nodup) :
    Yields (labelsOf (Entries.ofPairs ((ConfigKind.ofFamily family).defaults ++ given)))
      (fun _ => (∀ fields, Entries.get? "id2label" given = some (.obj fields) →
          ∀ text ∈ Entries.keys fields, IsId text) ∧
        ((∀ fields, Entries.get? "id2label" given ≠ some (.obj fields)) →
          ∀ v, Entries.get? "num_labels" given = some v → IsCount v))
      (·.isOwn = false) := by
  obtain ⟨-, hkey, -⟩ := labelNames_not_mem_defaults family
  have hnone : Entries.get? "id2label" (Entries.ofPairs (ConfigKind.ofFamily family).defaults) = none :=
    Entries.get?_ofPairs_append_of_not_mem [] hkey
  have hlabels := labelsOf_yields (Entries.ofPairs ((ConfigKind.ofFamily family).defaults ++ given))
  rw [Entries.get?_ofPairs_append _ hn, Entries.get?_ofPairs_append _ hn, hnone, Option.or_none] at hlabels
  refine hlabels.mono ?_ fun _ he => he
  rintro - ⟨hids, hcount⟩
  refine ⟨hids, fun htable v hv => ?_⟩
  simpa [hv] using hcount htable

/-- What is built is of the kind of the family, and no given attribute is misshapen; heads to prune are not
looked at yet. -/
theorem build_yields (family : Family) (hn : (Entries.keys given).Nodup) :
    Yields (build (.ofFamily family) given)
      (fun c => c.kind = .ofFamily family ∧ (Misshapen family given →
        ∃ v, Entries.get? "pruned_heads" given = some v ∧ ¬ IsNumbered v)) (·.isOwn = false) := by
  obtain ⟨hlabel2id, -, hproblem⟩ := labelNames_not_mem_defaults family
  have hlabel2id := get?_declaredOf_of_open hn (by rfl) hlabel2id
  have hproblem := get?_declaredOf_of_open hn (by rfl) hproblem
  unfold declaredOf at hlabel2id hproblem
  refine (checkSelf_yields _ given).bind fun _ _ => ?_
  refine (derived_yields family hn).bind fun _ hprojection => ?_
  dsimp only
  rw [hlabel2id, hproblem]
  refine (checkTable_yields _ _).bind fun _ hlabel2id => ?_
  refine (checkTable_yields _ _).bind fun _ hid2label => ?_
  refine (checkProblem_yields _).bind fun _ hproblem => ?_
  refine (checkNumberType_yields given).bind fun _ _ => ?_
  refine (labelsOf_given_yields family hn).bind fun _ ⟨hids, hcount⟩ => ?_
  refine (checkFollowing_yields _ given).bind fun _ _ => ?_
  refine ⟨rfl, fun hmisshapen => ?_⟩
  -- each other way to be misshapen contradicts the check of its attribute, which has passed
  cases hmisshapen with
  | projection v hfamily hv hform =>
    obtain ⟨s, hs, heq⟩ := hprojection hfamily
    exact (hform s (by simpa [hv] using heq) hs).elim
  | labelIds v hv htable => exact (htable (by simpa [hv] using hlabel2id)).elim
  | labelTexts v hv hnumbered =>
    obtain rfl | ⟨fields, rfl⟩ : IsTable v := by simpa [hv] using hid2label
    · exact (hnumbered (.inl rfl)).elim
    · exact (hnumbered (.inr ⟨fields, rfl, hids fields hv⟩)).elim
  | problem v hv hbad => exact (hbad (by simpa [hv] using hproblem)).elim
  | count v hnone hv hbad =>
    refine (hbad (hcount (fun fields htable => ?_) v hv)).elim
    rw [htable] at hnone
    cases hnone
  | heads v hv hnumbered => exact ⟨v, hv, hnumbered⟩

/-- What is built of the members of an object is of the kind of the family, and no member is misshapen; no
failure is one of the pipeline's own. -/
theorem ofObject_yields (family : Family) (hn : (Entries.keys given).Nodup) :
    Yields (ofObject (.ofFamily family) given)
      (fun c => c.kind = .ofFamily family ∧ ¬ Misshapen family given) (·.isOwn = false) := by
  refine (build_yields family hn).bind fun c ⟨hkind, hmisshapen⟩ => ?_
  refine (prunedHeads_yields _).bind fun heads hheads => ?_
  refine ⟨hkind, fun h => ?_⟩
  obtain ⟨v, hv, hnumbered⟩ := hmisshapen h
  exact hnumbered (by simpa [hv] using hheads)

end

end SequenceClassification.Configuration
