import SequenceClassification.Table.Records

/-!
Written tables. A field stands as it is, or between quotes with each of its quotes doubled; commas separate
the fields of a record, and a line feed, a carriage return or both end it, which the last record may go
without. The scanner goes through a field, then a record, then a table, and each time only adds what was
written to what it has. Main statement: the records of a table are read as they were written.
-/
namespace SequenceClassification.Table

def needsQuotes (c : Char) : Bool := c == ',' || c == '"' || c == '\n' || c == '\r'

/-- A field with its quotes doubled. -/
def doubled (field : List Char) : List Char :=
  field.flatMap fun c => if c == '"' then ['"', '"'] else [c]

inductive FieldText : List Char → List Char → Prop
  | plain {field : List Char} (h : ∀ c ∈ field, needsQuotes c = false) : FieldText field field
  | quoted (field : List Char) : FieldText field ('"' :: (doubled field ++ ['"']))

inductive RecordText : List (List Char) → List Char → Prop
  | single {field t : List Char} (h : FieldText field t) : RecordText [field] t
  | cons {field t : List Char} {fields : List (List Char)} {ts : List Char} (h : FieldText field t)
    (hrest : RecordText fields ts) : RecordText (field :: fields) (t ++ ',' :: ts)

inductive LineEnd : List Char → Prop
  | feed : LineEnd ['\n']
  | return : LineEnd ['\r']
  | returnFeed : LineEnd ['\r', '\n']

inductive TableText : List (List (List Char)) → List Char → Prop
  | empty : TableText [] []
  | unended {record : List (List Char)} {t : List Char} (h : RecordText record t) : TableText [record] t
  | line {record : List (List Char)} {t ending : List Char} {records : List (List (List Char))}
    {ts : List Char} (h : RecordText record t) (hend : LineEnd ending) (hrest : TableText records ts) :
    TableText (record :: records) (t ++ (ending ++ ts))

theorem ne_of_needsQuotes {c : Char} (h : needsQuotes c = false) :
    c ≠ ',' ∧ c ≠ '"' ∧ c ≠ '\n' ∧ c ≠ '\r' := by
  simpa [needsQuotes, and_assoc] using h

/-- A table begins with a quote or, if its first field is plain, with that field. -/
theorem head?_tableText {field second : List Char} {fields : List (List Char)}
    {records : List (List (List Char))} {t : List Char}
    (h : TableText ((field :: second :: fields) :: records) t) :
    t.head? = some '"' ∨ t.head? = (field ++ [',']).head? ∧ ∀ c ∈ field, needsQuotes c = false := by
  have hrecord : ∀ {t : List Char}, RecordText (field :: second :: fields) t → ∀ ts,
      (t ++ ts).head? = some '"' ∨
        (t ++ ts).head? = (field ++ [',']).head? ∧ ∀ c ∈ field, needsQuotes c = false := by
    intro t h ts
    cases h with
    | cons hfield hrest =>
      cases hfield with
      | plain hplain => exact .inr ⟨by cases field <;> rfl, hplain⟩
      | quoted => exact .inl rfl
  cases h with
  | unended h => simpa using hrecord h []
  | line h hend hrest => exact hrecord h _

namespace Scan

/-- The places where the scanner can stand when a field has been read to its end. -/
inductive AtFieldEnd : Place → Prop
  | nothing : AtFieldEnd .fieldStart
  | plain : AtFieldEnd .inField
  | quoted : AtFieldEnd .afterQuote

section
variable {fields : List (List Char)} {done : List (List (List Char))} {n : Nat}

theorem run_nil (s : Scan) : s.run [] = s := rfl

theorem run_cons (s : Scan) (c : Char) (t : List Char) : s.run (c :: t) = (s.next c).run t := rfl

theorem next_inField {c : Char} (hc : needsQuotes c = false) (f : List Char) :
    next ⟨.inField, f, fields, done, n, none⟩ c = ⟨.inField, c :: f, fields, done, n, none⟩ := by
  obtain ⟨hcomma, -, hfeed, hreturn⟩ := ne_of_needsQuotes hc
  simp [next, inField, ending, hcomma, hfeed, hreturn, push, goTo]

theorem run_inField {t : List Char} (ht : ∀ c ∈ t, needsQuotes c = false) (f : List Char) :
    run ⟨.inField, f, fields, done, n, none⟩ t =
      ⟨.inField, t.reverse ++ f, fields, done, n, none⟩ := by
  induction t generalizing f with
  | nil => rfl
  | cons c t ih =>
    rw [run_cons, next_inField (ht c List.mem_cons_self)]
    simpa using ih (fun d hd => ht d (List.mem_cons_of_mem c hd)) (c :: f)

theorem run_doubled (t f : List Char) :
    run ⟨.inQuotes, f, fields, done, n, none⟩ (doubled t) =
      ⟨.inQuotes, t.reverse ++ f, fields, done, n, none⟩ := by
  induction t generalizing f with
  | nil => rfl
  | cons c t ih =>
    have hchar : run ⟨.inQuotes, f, fields, done, n, none⟩ (if c == '"' then ['"', '"'] else [c]) =
        ⟨.inQuotes, c :: f, fields, done, n, none⟩ := by
      by_cases hc : c = '"'
      · subst hc; rfl
      · simp [hc, run, next, push]
    have hcons : doubled (c :: t) = (if c == '"' then ['"', '"'] else [c]) ++ doubled t := by
      simp [doubled]
    rw [hcons, run_append, hchar]
    simpa using ih (c :: f)

/-- Between quotes a field is read whatever its characters are. -/
theorem run_quoted {p : Place} (hp : p = .fieldStart ∨ p = .recordStart) (field : List Char) :
    run ⟨p, [], fields, done, n, none⟩ ('"' :: (doubled field ++ ['"'])) =
      ⟨.afterQuote, field.reverse, fields, done, n, none⟩ := by
  have hopen : next ⟨p, [], fields, done, n, none⟩ '"' = ⟨.inQuotes, [], fields, done, n, none⟩ := by
    rcases hp with rfl | rfl <;> rfl
  rw [run_cons, hopen, run_append, run_doubled, List.append_nil]
  rfl

variable (fields done n) in
/-- A field that is not the first of its record is read as it was written. -/
theorem run_fieldText {field t : List Char} (h : FieldText field t) :
    ∃ p, AtFieldEnd p ∧ run ⟨.fieldStart, [], fields, done, n, none⟩ t =
      ⟨p, field.reverse, fields, done, n, none⟩ := by
  cases h with
  | plain h =>
    cases field with
    | nil => exact ⟨_, .nothing, rfl⟩
    | cons c field =>
      obtain ⟨hcomma, hquote, hfeed, hreturn⟩ := ne_of_needsQuotes (h c List.mem_cons_self)
      have hfirst : next ⟨.fieldStart, [], fields, done, n, none⟩ c =
          ⟨.inField, [c], fields, done, n, none⟩ := by
        simp [next, atFieldStart, inField, ending, hcomma, hquote, hfeed, hreturn, push, goTo]
      refine ⟨_, .plain, ?_⟩
      rw [run_cons, hfirst]
      simpa using run_inField (fun d hd => h d (List.mem_cons_of_mem c hd)) [c]
  | quoted => exact ⟨_, .quoted, run_quoted (.inl rfl) field⟩

theorem next_comma {p : Place} (hp : AtFieldEnd p) (f : List Char) :
    next ⟨p, f, fields, done, n, none⟩ ',' = ⟨.fieldStart, [], f.reverse :: fields, done, n, none⟩ := by
  cases hp <;> rfl

theorem next_feed {p : Place} (hp : AtFieldEnd p) (f : List Char) :
    next ⟨p, f, fields, done, n, none⟩ '\n' = (endField ⟨p, f, fields, done, n, none⟩).endRecord := by
  cases hp <;> rfl

theorem next_return {p : Place} (hp : AtFieldEnd p) (f : List Char) :
    next ⟨p, f, fields, done, n, none⟩ '\r' =
      (endField ⟨p, f, fields, done, n, none⟩).goTo .afterReturn := by
  cases hp <;> rfl

theorem run_inField_comma {t : List Char} (ht : ∀ c ∈ t, needsQuotes c = false) (f : List Char) :
    run ⟨.inField, f, fields, done, n, none⟩ (t ++ [',']) =
      ⟨.fieldStart, [], (t.reverse ++ f).reverse :: fields, done, n, none⟩ := by
  rw [run_append, run_inField ht, run_cons, next_comma .plain, run_nil]

/-- Blanks at the start of a record belong to its first field as soon as a comma follows. -/
theorem run_blanks {t : List Char} (ht : ∀ c ∈ t, needsQuotes c = false) (seen : List Char) :
    run ⟨.blanks seen, [], fields, done, n, none⟩ (t ++ [',']) =
      ⟨.fieldStart, [], (t.reverse ++ seen).reverse :: fields, done, n, none⟩ := by
  induction t generalizing seen with
  | nil => rfl
  | cons c t ih =>
    obtain ⟨hcomma, hquote, hfeed, hreturn⟩ := ne_of_needsQuotes (ht c List.mem_cons_self)
    have ht' : ∀ d ∈ t, needsQuotes d = false := fun d hd => ht d (List.mem_cons_of_mem c hd)
    by_cases hblank : isLineBlank c = true
    · have hnext : next ⟨.blanks seen, [], fields, done, n, none⟩ c =
          ⟨.blanks (c :: seen), [], fields, done, n, none⟩ := by
        simp [next, hfeed, hreturn, hblank, goTo]
      rw [List.cons_append, run_cons, hnext]
      simpa using ih ht' (c :: seen)
    · have hnext : next ⟨.blanks seen, [], fields, done, n, none⟩ c =
          ⟨.inField, c :: seen, fields, done, n, none⟩ := by
        simp [next, hfeed, hreturn, hblank, inField, ending, hcomma, push, goTo]
      rw [List.cons_append, run_cons, hnext, run_inField_comma ht']
      simp

/-- The first of several fields is read as it was written: with a comma after it, no line of blanks is in
question. -/
theorem run_firstField {field t : List Char} (h : FieldText field t) :
    run ⟨.recordStart, [], fields, done, n, none⟩ (t ++ [',']) =
      ⟨.fieldStart, [], field :: fields, done, n, none⟩ := by
  cases h with
  | plain h =>
    cases field with
    | nil => rfl
    | cons c field =>
      obtain ⟨hcomma, hquote, hfeed, hreturn⟩ := ne_of_needsQuotes (h c List.mem_cons_self)
      have hrest : ∀ d ∈ field, needsQuotes d = false := fun d hd => h d (List.mem_cons_of_mem c hd)
      -- a blank at the start may still leave the whole line blank, so it is kept apart
      by_cases hblank : isLineBlank c = true
      · have hnext : next ⟨.recordStart, [], fields, done, n, none⟩ c =
            ⟨.blanks [c], [], fields, done, n, none⟩ := by
          simp [next, atRecordStart, hfeed, hreturn, hblank, goTo]
        rw [List.cons_append, run_cons, hnext]
        simpa using run_blanks hrest [c]
      · have hnext : next ⟨.recordStart, [], fields, done, n, none⟩ c =
            ⟨.inField, [c], fields, done, n, none⟩ := by
          simp [next, atRecordStart, atFieldStart, hfeed, hreturn, hblank, hquote, inField, ending,
            hcomma, push, goTo]
        rw [List.cons_append, run_cons, hnext, run_inField_comma hrest]
        simp
  | quoted =>
    rw [run_append, run_quoted (.inr rfl), run_cons, next_comma .quoted, run_nil, List.reverse_reverse]

end

/-- Fields after the first are read as they were written, the last of them being still in progress. -/
theorem run_recordText {record : List (List Char)} {t : List Char} (h : RecordText record t)
    (fields : List (List Char)) (done : List (List (List Char))) (n : Nat) :
    ∃ p before last, AtFieldEnd p ∧ record = before ++ [last] ∧
      run ⟨.fieldStart, [], fields, done, n, none⟩ t =
        ⟨p, last.reverse, before.reverse ++ fields, done, n, none⟩ := by
  induction h generalizing fields with
  | @single field t h =>
    obtain ⟨p, hp, hrun⟩ := run_fieldText fields done n h
    exact ⟨p, [], field, hp, rfl, hrun⟩
  | @cons field t rest ts h hrest ih =>
    obtain ⟨p, hp, hrun⟩ := run_fieldText fields done n h
    obtain ⟨q, before, last, hq, rfl, hothers⟩ := ih (field :: fields)
    refine ⟨q, field :: before, last, hq, rfl, ?_⟩
    rw [run_append, hrun, run_cons, next_comma hp, List.reverse_reverse]
    simpa using hothers

/-- The scanner at the start of a record, with the records so far, the last first. -/
def fresh (done : List (List (List Char))) (n : Nat) : Scan := ⟨.recordStart, [], [], done, n, none⟩

theorem run_fresh_recordText {record : List (List Char)} {t : List Char} (h : RecordText record t)
    (hseveral : 2 ≤ record.length) (done : List (List (List Char))) (n : Nat) :
    ∃ p before last, AtFieldEnd p ∧ record = before ++ [last] ∧
      run (fresh done n) t = ⟨p, last.reverse, before.reverse, done, n, none⟩ := by
  cases h with
  | single => simp at hseveral
  | @cons field t rest ts h hrest =>
    obtain ⟨p, before, last, hp, rfl, hrun⟩ := run_recordText hrest [field] done n
    refine ⟨p, field :: before, last, hp, rfl, ?_⟩
    rw [show t ++ ',' :: ts = t ++ [','] ++ ts by simp, run_append, fresh, run_firstField h, hrun]
    simp

/-- Among records of one length a record ends without a fault and is added as it is. -/
theorem endRecord_of_width {record : List (List Char)} {done : List (List (List Char))}
    (hdone : ∀ r ∈ done, r.length = record.length) (p : Place) (n : Nat) :
    endRecord ⟨p, [], record.reverse, done, n, none⟩ = fresh (record :: done) (n + 1) := by
  match done with
  | [] => simp [endRecord, fresh]
  | [header] =>
    have hheader : header.length = record.length := hdone header List.mem_cons_self
    simp [endRecord, fresh, filled, hheader]
  | last :: second :: before =>
    have hlast : last.length = record.length := hdone last List.mem_cons_self
    simp [endRecord, fresh, filled, hlast]

theorem endField_endRecord {record before : List (List Char)} {last : List Char}
    (hrecord : record = before ++ [last]) {done : List (List (List Char))}
    (hdone : ∀ r ∈ done, r.length = record.length) (p : Place) (n : Nat) :
    (endField ⟨p, last.reverse, before.reverse, done, n, none⟩).endRecord =
      fresh (record :: done) (n + 1) := by
  rw [← endRecord_of_width hdone p n, hrecord]
  simp [endField]

theorem endRecord_goTo (s : Scan) (p : Place) : (s.goTo p).endRecord = s.endRecord := rfl

theorem next_feed_of_afterReturn {s : Scan} (hs : s.fault = none) :
    (s.goTo .afterReturn).next '\n' = s.endRecord := by
  have hfault : ¬ (s.goTo .afterReturn).fault.isSome = true := by simp [goTo, hs]
  rw [← endRecord_goTo s .afterReturn, next, if_neg hfault]
  rfl

/-- Any other character after a carriage return comes after the record. -/
theorem finish_run_afterReturn {s : Scan} {done : List (List (List Char))} {n : Nat}
    (hs : s.endRecord = fresh done n) (hfault : s.fault = none) {t : List Char}
    (ht : t.head? ≠ some '\n') :
    ((s.goTo .afterReturn).run t).finish = ((fresh done n).run t).finish := by
  have hend : (s.goTo .afterReturn).endRecord = fresh done n := (endRecord_goTo s _).trans hs
  cases t with
  | nil =>
    have hfinish : (s.goTo .afterReturn).finish = (s.goTo .afterReturn).endRecord := by
      simp [finish, goTo, hfault]
    rw [run_nil, hfinish, hend]
    rfl
  | cons c t =>
    have hc : c ≠ '\n' := fun h => ht (by rw [h]; rfl)
    have hnext : (s.goTo .afterReturn).next c = (fresh done n).next c := by
      have hunfold : (s.goTo .afterReturn).next c = (s.goTo .afterReturn).endRecord.atRecordStart c := by
        simp [next, goTo, hfault, hc]
      rw [hunfold, hend]
      rfl
    rw [run_cons, hnext, run_cons]

/-- A table whose first record has several fields does not begin with a line feed. -/
theorem head?_ne_feed {records : List (List (List Char))} {t : List Char} (h : TableText records t)
    (hseveral : ∀ r ∈ records, 2 ≤ r.length) : t.head? ≠ some '\n' := by
  match records with
  | [] => cases h; nofun
  | [] :: _ | [_] :: _ => simp at hseveral
  | (field :: second :: fields) :: rest =>
    rcases head?_tableText h with hquote | ⟨hhead, hplain⟩
    · rw [hquote]
      decide
    · rw [hhead]
      cases field with
      | nil => decide
      | cons c cs => simpa using (ne_of_needsQuotes (hplain c List.mem_cons_self)).2.2.1

/-- Records of one length, of several fields each, are added as they were written. -/
theorem finish_run_tableText {width : Nat} (hwidth : 2 ≤ width) {records : List (List (List Char))}
    {t : List Char} (h : TableText records t) (hrecords : ∀ r ∈ records, r.length = width)
    {done : List (List (List Char))} (hdone : ∀ r ∈ done, r.length = width) (n : Nat) :
    ((fresh done n).run t).finish = fresh (records.reverse ++ done) (n + records.length) := by
  induction h generalizing done n with
  | empty => rfl
  | @unended record t h =>
    have hlen := hrecords record List.mem_cons_self
    obtain ⟨p, before, last, hp, hrecord, hrun⟩ := run_fresh_recordText h (by omega) done n
    have hended := endField_endRecord hrecord (fun r hr => by rw [hdone r hr, hlen]) p n
    rw [hrun]
    cases hp <;> exact hended
  | @line record t ending records ts h hend hrest ih =>
    have hlen := hrecords record List.mem_cons_self
    have hothers : ∀ r ∈ records, r.length = width := fun r hr => hrecords r (List.mem_cons_of_mem _ hr)
    obtain ⟨p, before, last, hp, hrecord, hrun⟩ := run_fresh_recordText h (by omega) done n
    have hended := endField_endRecord hrecord (fun r hr => by rw [hdone r hr, hlen]) p n
    have hdone' : ∀ r ∈ record :: done, r.length = width := by
      intro r hr
      rcases List.mem_cons.1 hr with rfl | hr
      · exact hlen
      · exact hdone r hr
    have hgoal : ((fresh (record :: done) (n + 1)).run ts).finish =
        fresh ((record :: records).reverse ++ done) (n + (record :: records).length) := by
      rw [ih hothers hdone' (n + 1)]
      simp [Nat.add_assoc, Nat.add_comm 1]
    rw [run_append, hrun, ← hgoal]
    cases hend with
    | feed =>
      rw [List.cons_append, List.nil_append, run_cons, next_feed hp, hended]
    | «return» =>
      -- the record ends only with the next character, which must not be a line feed of its own
      rw [List.cons_append, List.nil_append, run_cons, next_return hp]
      have hseveral : ∀ r ∈ records, 2 ≤ r.length := fun r hr => by rw [hothers r hr]; exact hwidth
      exact finish_run_afterReturn hended rfl (head?_ne_feed hrest hseveral)
    | returnFeed =>
      rw [List.cons_append, List.cons_append, List.nil_append, run_cons, next_return hp, run_cons,
        next_feed_of_afterReturn rfl, hended]

end Scan

/-- The records of a table are read as they were written, if they have one length and several fields. -/
theorem records_of_tableText {width : Nat} (hwidth : 2 ≤ width) {rows : List (List (List Char))}
    {t : List Char} (h : TableText rows t) (hrows : ∀ r ∈ rows, r.length = width) (hne : rows ≠ []) :
    records t = .ok rows := by
  have hscan : (Scan.run {} t).finish = Scan.fresh (rows.reverse ++ []) (0 + rows.length) :=
    Scan.finish_run_tableText hwidth h hrows (fun r hr => absurd hr List.not_mem_nil) 0
  unfold records
  rw [hscan]
  simp [Scan.fresh, hne]

end SequenceClassification.Table
