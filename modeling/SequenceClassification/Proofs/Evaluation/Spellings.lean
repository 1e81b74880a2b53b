import SequenceClassification.Proofs.Decimal.ExactValues
import SequenceClassification.Proofs.Decimal.Numerals
import SequenceClassification.Proofs.Evaluation.EntryOrder

/-!
The spellings of a gold label. A class may be named by its label text, its id, a numeral of the id or the
floating-point value of the id, and each place of a list of gold labels may use another spelling. Main
statement: if no label text is made of digits, all spellings give the same class ids, and the first text that
spells nothing is named by the failure.
-/
namespace SequenceClassification.Evaluation

/-- The gold label spells the class id: by the label text of the class, by the id, by a numeral of the id, or
by a floating-point value that is equal to it. -/
inductive Spells (table : LabelTable) (id : Int) : Json → Prop where
  | text {s : String} (h : Entries.get? id table = some (.str s)) : Spells table id (.str s)
  | number : Spells table id (.int id)
  | numeral {s : String} {n : Nat} (hid : id = n) (h : Decimal.IsNumeral s n) : Spells table id (.str s)
  | float {x : Float} (h : Decimal.HasValue x id) : Spells table id (.float x)

/-- A text that is no label text and not made of digits. -/
def Stranger (table : LabelTable) (s : String) : Prop :=
  Text.isAllDigits s = false ∧ Json.str s ∉ table.map Prod.snd

/-- A class id of at most 53 bits is equal to a floating-point value. -/
theorem exists_spells_float (table : LabelTable) {id : Int} (hlow : 0 ≤ id) (hhigh : id < 2 ^ 53) :
    ∃ x, Spells table id (.float x) := by
  obtain ⟨n, rfl⟩ := Int.eq_ofNat_of_zero_le hlow
  exact ⟨Decimal.ofWhole n, .float (by exact_mod_cast Decimal.hasValue_ofWhole (by omega))⟩

section
variable {table : LabelTable} (hd : table.DistinctTexts)
include hd

/-- Every spelling of a class id is read as that id. -/
theorem idOfGold_of_spells (hwords : ∀ s, Json.str s ∈ table.map Prod.snd → Text.isAllDigits s = false)
    {id : Int} {label : Json} (h : Spells table id label) :
    idOfGold (table.map fun e => (e.2, e.1)) label = .ok id := by
  cases h with
  | text h =>
    have hmem := Entries.mem_of_get? h
    have hword := hwords _ (List.mem_map_of_mem (f := Prod.snd) hmem)
    refine (idOfGold_text_iff (TextIndex.find?_of_distinct hd hmem)).2 fun hdigits => ?_
    rw [hword] at hdigits
    cases hdigits
  | number => rfl
  | numeral hid h =>
    rw [idOfGold_of_isAllDigits (Decimal.isAllDigits_of_isNumeral h), Decimal.readInteger_of_isNumeral h, hid]
    rfl
  | float h =>
    simp only [idOfGold, idOfValue, Decimal.isNaN_of_hasValue h, Decimal.isInf_of_hasValue h,
      Decimal.truncate_of_hasValue h, Bool.false_eq_true, if_false]

/-- A stranger is unknown, and the failure lists the label texts in order. -/
theorem exists_idOfGold_of_stranger : ∃ known : List String, known.Pairwise (· ≤ ·) ∧
    (known.map Json.str).Perm (table.map Prod.snd) ∧ ∀ s, Stranger table s →
      idOfGold (table.map fun e => (e.2, e.1)) (.str s) = .error (.unknown s (known.map Json.str)) := by
  obtain ⟨strings, hstrings⟩ := exists_strings (List.forall_mem_map.2 hd.strings)
  refine ⟨strings.mergeSort fun s t => decide (s ≤ t),
    pairwise_mergeSort_of_linear (fun _ _ => decide_eq_true_iff) _, ?_, fun s hs => ?_⟩
  · rw [hstrings]
    exact (List.mergeSort_perm _ _).map _
  · obtain ⟨hdigits, hnew⟩ := hs
    have htexts : (table.map fun e => (e.2, e.1)).map Prod.fst = strings.map Json.str := by
      rw [List.map_map, ← hstrings]
      rfl
    have hnone : TextIndex.find? s (table.map fun e => (e.2, e.1)) = none := by
      cases hfind : TextIndex.find? s (table.map fun e => (e.2, e.1)) with
      | none => rfl
      | some id =>
        have hmem := (TextIndex.find?_eq_some_iff hd).1 hfind
        exact absurd (List.mem_map_of_mem (f := Prod.snd) hmem) hnew
    simp only [idOfGold, hdigits, hnone, htexts, sortedTexts_strings, Bool.false_eq_true, if_false]

/-- All spellings of a class agree. Over distinct label texts of which none is made of digits, gold labels
that spell class ids in range, each in any way, are mapped to these ids; and among labels that spell class ids
the first text that is a stranger decides the failure, which names it. Class ids of at most 53 bits have a
floating-point value as one of their spellings. -/
theorem spellings_agree (hwords : ∀ s, Json.str s ∈ table.map Prod.snd → Text.isAllDigits s = false) :
    (∀ ids labels, (∀ id ∈ ids, isClassId id = true) → List.Forall₂ (Spells table) ids labels →
      goldIds table labels = .ok ids) ∧
    (∀ labels : List Json,
      (∀ label ∈ labels, (∃ id, Spells table id label) ∨ ∃ s, label = .str s ∧ Stranger table s) →
      (∃ s, Json.str s ∈ labels ∧ Stranger table s) →
      ∃ (before : List Json) (s : String) (after : List Json) (known : List String),
        labels = before ++ .str s :: after ∧ (∀ t, Json.str t ∈ before → ¬ Stranger table t) ∧
        Stranger table s ∧ known.Pairwise (· ≤ ·) ∧ (known.map Json.str).Perm (table.map Prod.snd) ∧
        (goldIds table labels).mapError GoldFault.failure =
          .error (.invalidValue ("Unknown label " ++ Text.quoted s ++ "; model labels are " ++
            Text.bracketed ((known.map Json.str).map Json.display)))) ∧
    ∀ id : Int, 0 ≤ id → id < 2 ^ 53 → isClassId id = true ∧ ∃ x, Spells table id (.float x) := by
  refine ⟨fun ids labels hrange hspelled => ?_, fun labels hlabels hstranger => ?_, fun id hlow hhigh => ?_⟩
  · refine (goldIds_eq_ok_iff (TextIndex.ofTable_of_distinct hd)).2 ⟨?_, hrange⟩
    exact hspelled.flip.imp fun _ _ => idOfGold_of_spells hd hwords
  · obtain ⟨known, hsorted, hperm, hunknown⟩ := exists_idOfGold_of_stranger hd
    have hnotall : ¬ ∀ label ∈ labels, ¬ ∃ s, label = .str s ∧ Stranger table s := by
      intro hall
      obtain ⟨s, hs, hstrange⟩ := hstranger
      exact hall _ hs ⟨s, rfl, hstrange⟩
    obtain ⟨before, label, after, rfl, hbefore, hlabel⟩ := exists_first_of_not_forall hnotall
    obtain ⟨s, rfl, hs⟩ := not_not.1 hlabel
    have hspelled : ∀ label ∈ before, ∃ id, idOfGold (table.map fun e => (e.2, e.1)) label = .ok id := by
      intro label hmem
      rcases hlabels label (List.mem_append_left _ hmem) with ⟨id, hid⟩ | hstrange
      · exact ⟨id, idOfGold_of_spells hd hwords hid⟩
      · exact absurd hstrange (hbefore label hmem)
    refine ⟨before, s, after, known, rfl, fun t ht hstrange => hbefore _ ht ⟨t, rfl, hstrange⟩, hs, hsorted,
      hperm, ?_⟩
    rw [goldIds_eq_bind (TextIndex.ofTable_of_distinct hd), mapM_of_first_error hspelled (hunknown s hs)]
    rfl
  · refine ⟨?_, exists_spells_float table hlow hhigh⟩
    simp only [isClassId, Bool.and_eq_true, decide_eq_true_eq]
    omega

end

def answers : LabelTable := [(0, .str "no"), (7, .str "yes")]

theorem distinctTexts_answers : answers.DistinctTexts where
  strings := by
    intro e he
    rcases List.mem_pair.1 he with rfl | rfl
    · exact ⟨_, rfl⟩
    · exact ⟨_, rfl⟩
  nodup := by simp [answers]

theorem stranger_maybe : Stranger answers "maybe" := ⟨by decide, by simp [answers]⟩

/-- Zeros in front, digits of two scripts, and a zero with a sign. -/
theorem spells_answers : List.Forall₂ (Spells answers) [7, 7, 7, 7, 7, 0, 0]
    [.str "yes", .int 7, .str "007", .str "٠۷", .float 7, .float (-0), .str "no"] := by
  have hzeros : Decimal.IsNumeral "007" 7 := ⟨[0, 0, 7], by decide⟩
  have hscripts : Decimal.IsNumeral "٠۷" 7 := ⟨[0, 7], by decide⟩
  have hseven : Decimal.HasValue 7 (7 : Int) := by
    have hunpack : (7 : Float).toModel.unpack = .finite .positive (7 * 2 ^ 50) (-50) (by decide) := rfl
    rw [Decimal.HasValue, hunpack, Decimal.exactValue?, Option.some.injEq]
    norm_num [Float.Model.UnpackedFloat.Sign.apply]
  have hsigned : Decimal.HasValue (-0) (0 : Int) := rfl
  exact .cons (.text rfl) (.cons .number (.cons (.numeral rfl hzeros) (.cons (.numeral rfl hscripts)
    (.cons (.float hseven) (.cons (.float hsigned) (.cons (.text rfl) .nil))))))

/-- The first stranger is named, whatever spells a class before and after it. -/
theorem spellings_agree_of_answers :
    answers.DistinctTexts ∧ Stranger answers "maybe" ∧
    goldIds answers [.str "yes", .int 7, .str "007", .str "٠۷", .float 7, .float (-0), .str "no"] =
      .ok [7, 7, 7, 7, 7, 0, 0] ∧
    ∃ known : List String, (known.map Json.str).Perm [.str "no", .str "yes"] ∧
      (goldIds answers [.str "yes", .str "maybe", .str "no", .str "perhaps"]).mapError GoldFault.failure =
        .error (.invalidValue ("Unknown label " ++ Text.quoted "maybe" ++ "; model labels are " ++
          Text.bracketed ((known.map Json.str).map Json.display))) := by
  have hwords : ∀ s, Json.str s ∈ answers.map Prod.snd → Text.isAllDigits s = false := by
    intro s hs
    rcases List.mem_pair.1 hs with h | h
    · obtain rfl := Json.str.inj h
      decide
    · obtain rfl := Json.str.inj h
      decide
  obtain ⟨hids, hfirst, -⟩ := spellings_agree distinctTexts_answers hwords
  refine ⟨distinctTexts_answers, stranger_maybe, hids _ _ (by decide) spells_answers, ?_⟩
  have hmaybe : Json.str "maybe" ∈ [Json.str "yes", .str "maybe", .str "no", .str "perhaps"] := by simp
  have hlabels : ∀ label ∈ [Json.str "yes", .str "maybe", .str "no", .str "perhaps"],
      (∃ id, Spells answers id label) ∨ ∃ s, label = .str s ∧ Stranger answers s := by
    intro label hlabel
    simp only [List.mem_cons, List.not_mem_nil, or_false] at hlabel
    obtain rfl | rfl | rfl | rfl := hlabel
    · exact .inl ⟨7, .text rfl⟩
    · exact .inr ⟨_, rfl, stranger_maybe⟩
    · exact .inl ⟨0, .text rfl⟩
    · exact .inr ⟨_, rfl, by decide, by simp [answers]⟩
  obtain ⟨before, s, after, known, hsplit, hbefore, hs, -, hperm, hfails⟩ :=
    hfirst _ hlabels ⟨_, hmaybe, stranger_maybe⟩
  obtain rfl : s = "maybe" := by
    cases before with
    | nil =>
      obtain rfl := Json.str.inj (List.cons.inj hsplit).1
      exact absurd hs.2 (by simp [answers])
    | cons a before =>
      cases before with
      | nil => exact (Json.str.inj (List.cons.inj (List.cons.inj hsplit).2).1).symm
      | cons b before =>
        obtain rfl := (List.cons.inj (List.cons.inj hsplit).2).1
        exact absurd stranger_maybe (hbefore _ (by simp))
  exact ⟨known, hperm, hfails⟩

end SequenceClassification.Evaluation
