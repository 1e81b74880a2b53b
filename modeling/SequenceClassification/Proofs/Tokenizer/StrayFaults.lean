import SequenceClassification.Proofs.Outcome
import SequenceClassification.Tokenizer.Build

/-!
The failures of building a tokenizer that are of another class than its own. One family insists that there
is a file of pieces and that its vocabulary has a padding token, and some families take for granted that a
vocabulary in JSON is a table; none of this is reported as a fault of the tokenizer. Main statement: these are
the only ways, unless a useless flag is refused before.
-/
namespace SequenceClassification.Tokenizer

/-- Whether a fault is reported as one of the tokenizer. -/
def BuildFault.isReported : BuildFault → Bool
  | .noModelAt _ | .noPad | .noTable _ => false
  | _ => true

theorem BuildFault.kind_failure_eq_iff (f : BuildFault) (family : Family) (path : String) :
    (f.failure family path).kind = .own .tokenizer ↔ f.isReported = true := by
  cases f <;> simp [failure, isReported, Failure.own]

/-- The file of a vocabulary holds a JSON value that is no table. -/
def Untabled (levels : ℕ) (f : SourceFile) (v : Json) : Prop := fileValue levels f = .ok v ∧ v.obj? = none

/-- The faults that come out under classes of their own. One family insists that there is something at the
path of its pieces, and that the padding token is in its vocabulary if the unknown one is; families with a
vocabulary in JSON take for granted that the value is a table, or, where the tokens are looked for in it, that
it is one if they are found. -/
inductive StrayFault (levels : ℕ) (family : Family) (vocabulary : SourceFile) (merges : Option SourceFile) :
    BuildFault → Prop
  | noModel (m : SourceFile) (hfamily : family = .marian) (hmerges : merges = some m)
      (hmissing : m.content = .missing) : StrayFault levels family vocabulary merges (.noModelAt m.path)
  | noPad (m : SourceFile) (v : Json) (hfamily : family = .marian) (hmerges : merges = some m)
      (hthere : m.content ≠ .missing) (hv : fileValue levels vocabulary = .ok v)
      (hholds : holds (unknownName family) v = true) (hpad : holds (padName family) v = false) :
      StrayFault levels family vocabulary merges .noPad
  | noTable (m : SourceFile) (v : Json) (hfamily : family = .roberta ∨ family = .bart)
      (hmerges : merges = some m) (hv : Untabled levels vocabulary v) :
      StrayFault levels family vocabulary merges (.noTable v.kindName)
  | noCodedTable (m : SourceFile) (v : Json) (hfamily : family = .marian) (hmerges : merges = some m)
      (hthere : m.content ≠ .missing) (hv : Untabled levels vocabulary v)
      (hholds : holds (unknownName family) v = true) (hpad : holds (padName family) v = true) :
      StrayFault levels family vocabulary merges (.noTable v.kindName)

section
variable {levels : ℕ} {family : Family} {vocabulary : SourceFile} {merges : Option SourceFile} {flags : TextFlags}

theorem StrayFault.isReported_eq {fault : BuildFault} (h : StrayFault levels family vocabulary merges fault) :
    fault.isReported = false := by
  cases h <;> rfl

theorem fileText_yields (f : SourceFile) :
    Yields (fileText f) (fun _ => True) (·.isReported = true) := by
  unfold fileText
  cases f.content.text with
  | error e => rfl
  | ok s => trivial

theorem fileValue_yields (levels : ℕ) (f : SourceFile) :
    Yields (fileValue levels f) (fileValue levels f = .ok ·) (·.isReported = true) := by
  have hvalue : Yields (fileValue levels f) (fun _ => True) (·.isReported = true) := by
    refine (fileText_yields f).bind fun s _ => ?_
    cases Json.read levels s with
    | error r => rfl
    | ok v => trivial
  exact hvalue.giving

theorem fileModel_yields (f : SourceFile) :
    Yields (fileModel f) (fun _ => True) (·.isReported = true) := by
  unfold fileModel
  split
  · split
    · trivial
    · rfl
  · rfl

theorem needed_yields (merges : Option SourceFile) :
    Yields (needed merges) (merges = some ·) (·.isReported = true) := by
  cases merges with
  | none => rfl
  | some m => rfl

theorem vocabularyOf_of_untabled {v : Json} (h : v.obj? = none) :
    vocabularyOf v = .error (.noTable v.kindName) := by
  cases v with
  | obj fields => cases h
  | _ => rfl

theorem vocabularyOf_yields (v : Json) :
    Yields (vocabularyOf v) (fun _ => True)
      (fun fault => fault.isReported = true ∨ v.obj? = none ∧ fault = .noTable v.kindName) := by
  cases v with
  | obj fields =>
    unfold vocabularyOf
    dsimp only
    split
    · trivial
    · exact .inl rfl
  | _ => exact .inr ⟨rfl, rfl⟩

theorem completeVocabulary_yields (levels : ℕ) (family : Family) (f : SourceFile) :
    Yields (completeVocabulary levels family f) (fun _ => True) (fun fault => fault.isReported = true ∨
      ∃ v, fileValue levels f = .ok v ∧ holds (unknownName family) v = true ∧
        (holds (padName family) v = false ∧ fault = .noPad ∨
          holds (padName family) v = true ∧ v.obj? = none ∧ fault = .noTable v.kindName)) := by
  refine (fileValue_yields levels f).or_left.bind fun v hv => ?_
  cases hholds : holds (unknownName family) v with
  | false => exact .inl rfl
  | true =>
    cases hpad : holds (padName family) v with
    | false => exact .inr ⟨v, hv, hholds, .inl ⟨hpad, rfl⟩⟩
    | true =>
      refine (vocabularyOf_yields v).mono_right fun fault h => ?_
      exact h.imp_right fun ⟨htable, hfault⟩ => ⟨v, hv, hholds, .inr ⟨hpad, htable, hfault⟩⟩

/-- Subwords are refused with reported faults, and with those that stray. -/
theorem subwordsOf_yields (levels : ℕ) (family : Family) (vocabulary : SourceFile) (merges : Option SourceFile)
    (flags : TextFlags) :
    Yields (subwordsOf levels family vocabulary merges flags) (fun _ => True)
      (fun fault => fault.isReported = true ∨ StrayFault levels family vocabulary merges fault) := by
  unfold subwordsOf
  cases family with
  | bert | distilBert | electra => exact (fileText_yields vocabulary).or_left.bind fun _ _ => trivial
  | albert | xlmRoberta | t5 => exact (fileModel_yields vocabulary).or_left.bind fun _ _ => trivial
  | roberta | bart =>
    refine (needed_yields merges).or_left.bind fun m hm => ?_
    refine (fileValue_yields levels vocabulary).or_left.bind fun v hv => ?_
    refine Yields.bind ((vocabularyOf_yields v).mono_right ?_) fun _ _ =>
      (fileText_yields m).or_left.bind fun _ _ => trivial
    rintro fault (hfault | ⟨htable, rfl⟩)
    · exact .inl hfault
    · exact .inr (.noTable m v (by decide) hm ⟨hv, htable⟩)
  | marian =>
    refine (needed_yields merges).or_left.bind fun m hm => ?_
    split
    -- the path of the pieces is looked at first, and only then the vocabulary
    · rename_i hmissing
      exact .inr (.noModel m rfl hm hmissing)
    · rename_i hthere
      refine Yields.bind ((completeVocabulary_yields levels .marian vocabulary).mono_right ?_)
        fun _ _ => (fileModel_yields m).or_left.bind fun _ _ => trivial
      rintro fault (hfault | ⟨v, hv, hholds, ⟨hpad, rfl⟩ | ⟨hpad, htable, rfl⟩⟩)
      · exact .inl hfault
      · exact .inr (.noPad m v rfl hm hthere hv hholds hpad)
      · exact .inr (.noCodedTable m v rfl hm hthere ⟨hv, htable⟩ hholds hpad)

theorem subwordsOf_of_strayFault {fault : BuildFault} (h : StrayFault levels family vocabulary merges fault)
    (flags : TextFlags) : subwordsOf levels family vocabulary merges flags = .error fault := by
  cases h with
  | noModel m hfamily hmerges hmissing =>
    subst hfamily hmerges
    simp only [subwordsOf, needed, ok_bind, hmissing]
    rfl
  | noTable m v hfamily hmerges hv =>
    subst hmerges
    obtain ⟨hread, htable⟩ := hv
    rcases hfamily with rfl | rfl
    all_goals
      simp only [subwordsOf, needed, hread, ok_bind, vocabularyOf_of_untabled htable]
      rfl
  | noPad m v hfamily hmerges hthere hread hholds hpad =>
    subst hfamily hmerges
    have hvocabulary : completeVocabulary levels .marian vocabulary = .error .noPad := by
      simp only [completeVocabulary, hread, ok_bind, hholds, hpad]
      rfl
    cases hcontent : m.content with
    | missing => exact absurd hcontent hthere
    | _ =>
      simp only [subwordsOf, needed, ok_bind, hcontent, hvocabulary]
      rfl
  | noCodedTable m v hfamily hmerges hthere hv hholds hpad =>
    subst hfamily hmerges
    obtain ⟨hread, htable⟩ := hv
    have hvocabulary : completeVocabulary levels .marian vocabulary = .error (.noTable v.kindName) := by
      simp only [completeVocabulary, hread, ok_bind, hholds, hpad, vocabularyOf_of_untabled htable]
      rfl
    cases hcontent : m.content with
    | missing => exact absurd hcontent hthere
    | _ =>
      simp only [subwordsOf, needed, ok_bind, hcontent, hvocabulary]
      rfl

theorem refuse_yields (name : String) (value : Option Bool) :
    Yields (refuse name value) (fun _ => value = none) (·.isReported = true) := by
  cases value with
  | none => rfl
  | some b => rfl

/-- A useless flag is refused before any file is looked at. -/
theorem forM_refuse_yields (given : List (String × Option Bool)) :
    Yields (given.forM fun (name, value) => refuse name value) (fun _ => ∀ flag ∈ given, flag.2 = none)
      (·.isReported = true) := by
  induction given with
  | nil => exact fun _ h => absurd h List.not_mem_nil
  | cons flag given ih =>
    refine (refuse_yields flag.1 flag.2).bind fun _ hflag => ?_
    refine ih.mono (fun _ hgiven => ?_) fun _ h => h
    exact List.forall_mem_cons.2 ⟨hflag, hgiven⟩

theorem forM_refuse_eq_ok {given : List (String × Option Bool)} (h : ∀ flag ∈ given, flag.2 = none) :
    (given.forM fun (name, value) => refuse name value) = .ok () := by
  induction given with
  | nil => rfl
  | cons flag given ih =>
    obtain ⟨hflag, hgiven⟩ := List.forall_mem_cons.1 h
    change (refuse flag.1 flag.2 >>= fun _ => given.forM _) = _
    rw [hflag, refuse_none, ok_bind]
    exact ih hgiven

theorem checkOrder_yields (t : Tokenizer) :
    Yields t.checkOrder (fun _ => True) (·.isReported = true) := by
  unfold checkOrder
  split
  · trivial
  · rfl

theorem build_yields (levels : ℕ) (family : Family) (vocabulary : SourceFile) (merges : Option SourceFile)
    (flags : TextFlags) :
    Yields (build levels family vocabulary merges flags) (fun _ => True) (fun fault => fault.isReported = true ∨
      (∀ flag ∈ uselessFlags flags family, flag.2 = none) ∧ StrayFault levels family vocabulary merges fault) := by
  refine (forM_refuse_yields _).or_left.bind fun _ hflags => ?_
  refine Yields.bind ((subwordsOf_yields levels family vocabulary merges flags).mono_right ?_)
    fun _ _ => (checkOrder_yields _).or_left.bind fun _ _ => trivial
  exact fun _ hfault => hfault.imp_right fun hstray => ⟨hflags, hstray⟩

theorem build_of_strayFault {fault : BuildFault} (hflags : ∀ flag ∈ uselessFlags flags family, flag.2 = none)
    (h : StrayFault levels family vocabulary merges fault) :
    build levels family vocabulary merges flags = .error fault := by
  simp only [build, forM_refuse_eq_ok hflags, ok_bind, subwordsOf_of_strayFault h]
  rfl

/-- A tokenizer is refused with another class of failure than its own exactly if no useless flag is given
and one of the faults that stray is there; it then is that fault. -/
theorem fromFiles_stray_iff (levels : ℕ) (family : Family) (vocabulary : SourceFile) (merges : Option SourceFile)
    (flags : TextFlags) (e : Failure) :
    (fromFiles levels family vocabulary merges flags = .error e ∧ e.kind ≠ .own .tokenizer) ↔
      (∀ flag ∈ uselessFlags flags family, flag.2 = none) ∧
      ∃ fault, StrayFault levels family vocabulary merges fault ∧ e = fault.failure family vocabulary.path := by
  have hbuild := build_yields levels family vocabulary merges flags
  constructor
  · rintro ⟨hfail, hclass⟩
    unfold fromFiles at hfail
    cases hresult : build levels family vocabulary merges flags with
    | ok t =>
      rw [hresult] at hfail
      cases hfail
    | error fault =>
      rw [hresult] at hfail
      obtain rfl := Except.error.inj hfail
      rw [Ne, fault.kind_failure_eq_iff] at hclass
      obtain hreported | ⟨hflags, hstray⟩ := hbuild.of_error hresult
      · exact absurd hreported hclass
      · exact ⟨hflags, fault, hstray, rfl⟩
  · rintro ⟨hflags, fault, hstray, rfl⟩
    refine ⟨by rw [fromFiles, build_of_strayFault hflags hstray]; rfl, ?_⟩
    rw [Ne, fault.kind_failure_eq_iff, hstray.isReported_eq]
    decide

end

def emptyListFile : SourceFile := ⟨"vocab.json", .octets [91, 93]⟩

def emptyFile : SourceFile := ⟨"merges.txt", .octets []⟩

theorem untabled_emptyListFile : Untabled 970 emptyListFile (.arr []) := ⟨rfl, rfl⟩

theorem fromFiles_emptyListFile :
    fromFiles 970 .roberta emptyListFile (some emptyFile) {} =
      .error ⟨.missingAttribute, "'list' object has no attribute 'items'"⟩ ∧
    FailureClass.missingAttribute ≠ .own .tokenizer :=
  (fromFiles_stray_iff 970 .roberta emptyListFile (some emptyFile) {} _).2
    ⟨by decide, _, .noTable emptyFile (.arr []) (.inl rfl) rfl untabled_emptyListFile, rfl⟩

end SequenceClassification.Tokenizer
