import SequenceClassification.Proofs.Weights.Normalization

/-!
The marks before names. A table is marked by a text put before every name, and look-up behind the text is
look-up in the table without it. Of a list of marks, those are removed that every name carries when their
turn comes. Main statements: of marks of which none begins with another, any part put before the names in
order is removed again and nothing else is; and what is removed depends on the names alone.
-/
namespace SequenceClassification.Weights

/-- The table with a text put before every name. -/
def marked (text : String) (state : Entries String Stored) : Entries String Stored :=
  state.map fun e => (text ++ e.1, e.2)

section
variable {state : Entries String Stored}

@[simp] theorem marked_empty (state : Entries String Stored) : marked "" state = state := by
  simp [marked]

theorem marked_append (a b : String) (state : Entries String Stored) :
    marked (a ++ b) state = marked a (marked b state) := by
  simp [marked, String.append_assoc]

theorem mem_keys_marked {text k : String} :
    k ∈ Entries.keys (marked text state) ↔ ∃ j ∈ Entries.keys state, k = text ++ j := by
  simp [Entries.keys, marked, eq_comm]

/-- Every name behind a mark is found without it. -/
theorem get?_marked (text k : String) (state : Entries String Stored) :
    Entries.get? (text ++ k) (marked text state) = Entries.get? k state := by
  induction state with
  | nil => rfl
  | cons e state ih =>
    obtain ⟨j, v⟩ := e
    have hkey : text ++ j = text ++ k ↔ j = k := String.append_right_inj text
    simp only [marked, List.map_cons, Entries.get?, hkey] at ih ⊢
    rw [ih]

/-- No name without the mark is found behind it. -/
theorem get?_marked_of_not_carries {text k : String} (h : carries text k = false) :
    Entries.get? k (marked text state) = none := by
  rw [Entries.get?_eq_none_iff, mem_keys_marked]
  rintro ⟨j, -, rfl⟩
  rw [carries_append] at h
  cases h

theorem removeMark_of_all {mark : String} (h : ∀ k ∈ Entries.keys state, carries mark k = true) :
    removeMark mark state = state.map fun e => (dropMark mark e.1, e.2) := by
  rw [removeMark, if_pos ((all_carries_iff mark state).2 h)]

theorem removeMark_marked (mark : String) (state : Entries String Stored) :
    removeMark mark (marked mark state) = state := by
  have hall : ∀ k ∈ Entries.keys (marked mark state), carries mark k = true := by
    intro k hk
    obtain ⟨j, -, rfl⟩ := mem_keys_marked.1 hk
    exact carries_append mark j
  rw [removeMark_of_all hall]
  simp [marked, Function.comp_def, dropMark_append]

/-- A mark that was removed can be put back. -/
theorem marked_removeMark {mark : String} (h : ∀ k ∈ Entries.keys state, carries mark k = true) :
    marked mark (removeMark mark state) = state := by
  have hback : ∀ e ∈ state, (mark ++ dropMark mark e.1, e.2) = e := fun e he => by
    rw [append_dropMark (h e.1 (List.mem_map_of_mem he))]
  rw [removeMark_of_all h, marked, List.map_map]
  exact (List.map_congr_left hback).trans (List.map_id _)

end

/-- Two marks of which neither begins with the other. -/
def Apart (a b : String) : Prop := ¬ a.toList <+: b.toList ∧ ¬ b.toList <+: a.toList

instance (a b : String) : Decidable (Apart a b) := by
  unfold Apart
  infer_instance

theorem Apart.symm {a b : String} (h : Apart a b) : Apart b a := ⟨h.2, h.1⟩

/-- A name behind one mark does not carry another one. -/
theorem Apart.not_carries {a b : String} (h : Apart a b) (rest : String) :
    carries a (b ++ rest) = false := by
  rw [Bool.eq_false_iff]
  intro hcarries
  have ha : a.toList <+: (b ++ rest).toList := List.isPrefixOf_iff_prefix.1 hcarries
  have hb : b.toList <+: (b ++ rest).toList := by simp [String.toList_append]
  rcases List.prefix_or_prefix_of_prefix ha hb with hab | hba
  · exact h.1 hab
  · exact h.2 hba

theorem apart_wrapperMarks : wrapperMarks.Pairwise Apart := by decide

/-- A name carries two marks in a row if it carries the first and what is behind it the second. -/
theorem carries_append_iff {a b name : String} :
    carries (a ++ b) name = true ↔ carries a name = true ∧ carries b (dropMark a name) = true := by
  constructor
  · intro h
    have hname : a ++ (b ++ dropMark (a ++ b) name) = name := by
      rw [← String.append_assoc]
      exact append_dropMark h
    rw [← hname, dropMark_append]
    exact ⟨carries_append a _, carries_append b _⟩
  · rintro ⟨ha, hb⟩
    rw [← append_dropMark ha, ← append_dropMark hb, ← String.append_assoc]
    exact carries_append (a ++ b) _

/-- A mark apart from what stands before the names is not removed. -/
theorem removeMark_marked_of_apart {mark text : String} {state : Entries String Stored}
    (h : Apart mark text) (hstate : state ≠ []) (rest : String) :
    removeMark mark (marked (text ++ rest) state) = marked (text ++ rest) state := by
  obtain ⟨e, state', rfl⟩ := List.exists_cons_of_ne_nil hstate
  refine removeMark_of_not_carried (e := (text ++ rest ++ e.1, e.2)) (by simp [marked]) ?_
  rw [String.append_assoc]
  exact h.not_carries _

/-- Of marks apart from each other, any part put before the names in order is removed again, and nothing
else is if each mark is lacking from some name. -/
theorem foldl_removeMark_marked {kept marks : List String} {state : Entries String Stored}
    (hkept : kept.Sublist marks) (hmarks : marks.Pairwise Apart)
    (hlacks : ∀ mark ∈ marks, ∃ k ∈ Entries.keys state, carries mark k = false) :
    marks.foldl (fun s mark => removeMark mark s) (marked (String.join kept) state) = state := by
  induction hkept with
  | slnil => simp
  | @cons kept marks mark hkept ih =>
    -- the mark is not among those before the names
    obtain ⟨hmark, hmarks⟩ := List.pairwise_cons.1 hmarks
    have hrest := ih hmarks fun mark' h => hlacks mark' (List.mem_cons_of_mem _ h)
    obtain ⟨k, hk, hcarries⟩ := hlacks mark (List.mem_cons_self ..)
    obtain ⟨e, he, rfl⟩ := List.mem_map.1 hk
    have hsame : removeMark mark (marked (String.join kept) state) = marked (String.join kept) state := by
      cases kept with
      | nil => simpa using removeMark_of_not_carried he hcarries
      | cons first kept =>
        have hapart : Apart mark first := hmark first (hkept.subset (List.mem_cons_self ..))
        rw [String.join_cons]
        exact removeMark_marked_of_apart hapart (List.ne_nil_of_mem he) _
    rw [List.foldl_cons, hsame, hrest]
  | @cons_cons kept marks mark hkept ih =>
    obtain ⟨-, hmarks⟩ := List.pairwise_cons.1 hmarks
    rw [List.foldl_cons, String.join_cons, marked_append, removeMark_marked]
    exact ih hmarks fun mark' h => hlacks mark' (List.mem_cons_of_mem _ h)

theorem removeMarks_marked {kept : List String} {state : Entries String Stored}
    (hkept : kept.Sublist wrapperMarks)
    (hlacks : ∀ mark ∈ wrapperMarks, ∃ k ∈ Entries.keys state, carries mark k = false) :
    removeMarks (marked (String.join kept) state) = state :=
  foldl_removeMark_marked hkept apart_wrapperMarks hlacks

theorem removeMarks_eq_self {state : Entries String Stored}
    (hlacks : ∀ mark ∈ wrapperMarks, ∃ k ∈ Entries.keys state, carries mark k = false) :
    removeMarks state = state := by
  simpa using removeMarks_marked (List.nil_sublist wrapperMarks) hlacks

/-- The marks that are removed from a table with given names. -/
def sharedMarks : List String → List String → List String
  | [], _ => []
  | mark :: marks, names =>
    if names.all (carries mark) then mark :: sharedMarks marks (names.map (dropMark mark))
    else sharedMarks marks names

theorem sharedMarks_cons_of_all {mark : String} {marks names : List String}
    (h : ∀ k ∈ names, carries mark k = true) :
    sharedMarks (mark :: marks) names = mark :: sharedMarks marks (names.map (dropMark mark)) := by
  rw [sharedMarks, if_pos (List.all_eq_true.2 h)]

theorem sharedMarks_cons_of_not_all {mark : String} {marks names : List String}
    (h : ¬ ∀ k ∈ names, carries mark k = true) :
    sharedMarks (mark :: marks) names = sharedMarks marks names := by
  rw [sharedMarks, if_neg (mt List.all_eq_true.1 h)]

theorem sharedMarks_sublist (marks names : List String) : (sharedMarks marks names).Sublist marks := by
  induction marks generalizing names with
  | nil => exact .slnil
  | cons mark marks ih =>
    by_cases h : ∀ k ∈ names, carries mark k = true
    · rw [sharedMarks_cons_of_all h]
      exact (ih _).cons_cons mark
    · rw [sharedMarks_cons_of_not_all h]
      exact (ih _).cons mark

/-- What is removed depends on which names there are alone. -/
theorem sharedMarks_congr {marks names names' : List String} (h : ∀ k, k ∈ names ↔ k ∈ names') :
    sharedMarks marks names = sharedMarks marks names' := by
  induction marks generalizing names names' with
  | nil => rfl
  | cons mark marks ih =>
    by_cases hall : ∀ k ∈ names, carries mark k = true
    · rw [sharedMarks_cons_of_all hall, sharedMarks_cons_of_all fun k hk => hall k ((h k).2 hk)]
      have hmap : ∀ k, k ∈ names.map (dropMark mark) ↔ k ∈ names'.map (dropMark mark) := by simp [h]
      rw [ih hmap]
    · have hall' : ¬ ∀ k ∈ names', carries mark k = true := by simpa only [h] using hall
      rw [sharedMarks_cons_of_not_all hall, sharedMarks_cons_of_not_all hall', ih h]

/-- A table is its names without the removed marks, marked with these. -/
theorem marked_sharedMarks (marks : List String) (es : Entries String Stored) :
    marked (String.join (sharedMarks marks (Entries.keys es)))
      (marks.foldl (fun s mark => removeMark mark s) es) = es := by
  induction marks generalizing es with
  | nil => simp [sharedMarks]
  | cons mark marks ih =>
    rw [List.foldl_cons]
    by_cases h : ∀ k ∈ Entries.keys es, carries mark k = true
    · have hkeys : (Entries.keys es).map (dropMark mark) = Entries.keys (removeMark mark es) := by
        simp [removeMark_of_all h, Entries.keys, Function.comp_def]
      rw [sharedMarks_cons_of_all h, hkeys, String.join_cons, marked_append, ih, marked_removeMark h]
    · rw [sharedMarks_cons_of_not_all h, removeMark, if_neg (mt (all_carries_iff mark es).1 h), ih]

/-- The text of the marks that are removed from a table. -/
def sharedText (es : Entries String Stored) : String :=
  String.join (sharedMarks wrapperMarks (Entries.keys es))

/-- Look-up behind the removed marks is look-up with them. -/
theorem get?_removeMarks (k : String) (es : Entries String Stored) :
    Entries.get? k (removeMarks es) = Entries.get? (sharedText es ++ k) es := by
  rw [← get?_marked (sharedText es) k (removeMarks es), removeMarks, sharedText, marked_sharedMarks]

section
variable {marks names : List String} {k : String}

theorem sharedMarks_further_of_all {mark : String} (hk : carries mark k = true)
    (hall : ∀ j ∈ names, carries mark j = true) : sharedMarks (mark :: marks) (k :: names) =
      mark :: sharedMarks marks (dropMark mark k :: names.map (dropMark mark)) :=
  sharedMarks_cons_of_all (List.forall_mem_cons.2 ⟨hk, hall⟩)

theorem sharedMarks_further_of_not_all {mark : String} (hall : ¬ ∀ j ∈ names, carries mark j = true) :
    sharedMarks (mark :: marks) (k :: names) = sharedMarks marks (k :: names) :=
  sharedMarks_cons_of_not_all fun hcons => hall (List.forall_mem_cons.1 hcons).2

/-- A further name that carries the removed marks changes nothing in them. -/
theorem sharedMarks_of_carries (h : carries (String.join (sharedMarks marks names)) k = true) :
    sharedMarks marks (k :: names) = sharedMarks marks names := by
  induction marks generalizing names k with
  | nil => rfl
  | cons mark marks ih =>
    by_cases hall : ∀ j ∈ names, carries mark j = true
    · rw [sharedMarks_cons_of_all hall, String.join_cons, carries_append_iff] at h
      rw [sharedMarks_further_of_all h.1 hall, sharedMarks_cons_of_all hall, ih h.2]
    · rw [sharedMarks_cons_of_not_all hall] at h
      rw [sharedMarks_further_of_not_all hall, sharedMarks_cons_of_not_all hall, ih h]

/-- Behind a mark that stays, no mark apart from it is removed. -/
theorem sharedMarks_eq_nil {mark : String} (hmark : ∀ mark' ∈ marks, Apart mark mark')
    (hk : k ∈ names) (hcarries : carries mark k = true) : sharedMarks marks names = [] := by
  induction marks with
  | nil => rfl
  | cons mark' marks ih =>
    have hlacks : carries mark' k = false := by
      rw [← append_dropMark hcarries]
      exact (hmark mark' (List.mem_cons_self ..)).symm.not_carries _
    have hall : ¬ ∀ j ∈ names, carries mark' j = true := fun hall => by
      simp [hall k hk] at hlacks
    rw [sharedMarks_cons_of_not_all hall]
    exact ih fun mark'' h => hmark mark'' (List.mem_cons_of_mem _ h)

/-- Among marks apart from each other, a further name that lacks one of the removed marks leaves one of
them in place. -/
theorem exists_sharedMarks_append (hmarks : marks.Pairwise Apart) (hnames : names ≠ [])
    (h : ¬ carries (String.join (sharedMarks marks names)) k = true) :
    ∃ mark ∈ marks, ∃ more,
      sharedMarks marks names = sharedMarks marks (k :: names) ++ mark :: more := by
  induction marks generalizing names k with
  | nil => simp [sharedMarks, carries] at h
  | cons mark marks ih =>
    obtain ⟨hmark, hmarks⟩ := List.pairwise_cons.1 hmarks
    by_cases hall : ∀ j ∈ names, carries mark j = true
    · rw [sharedMarks_cons_of_all hall, String.join_cons, carries_append_iff] at h
      by_cases hk : carries mark k = true
      · -- the mark is removed from the further name too, so the lacking one is a later one
        have hrest : ¬ carries (String.join (sharedMarks marks (names.map (dropMark mark))))
            (dropMark mark k) = true := fun hrest => h ⟨hk, hrest⟩
        obtain ⟨mark', hmark', more, heq⟩ := ih hmarks (List.map_eq_nil_iff.not.2 hnames) hrest
        refine ⟨mark', List.mem_cons_of_mem _ hmark', more, ?_⟩
        rw [sharedMarks_cons_of_all hall, sharedMarks_further_of_all hk hall, heq, List.cons_append]
      · -- the mark stays before the other names, and no later one comes before it
        have hstays : ¬ ∀ j ∈ k :: names, carries mark j = true :=
          fun hcons => hk (hcons k (List.mem_cons_self ..))
        obtain ⟨j, hj⟩ := List.exists_mem_of_ne_nil names hnames
        have hnone : sharedMarks marks (k :: names) = [] :=
          sharedMarks_eq_nil hmark (List.mem_cons_of_mem _ hj) (hall j hj)
        refine ⟨mark, List.mem_cons_self .., sharedMarks marks (names.map (dropMark mark)), ?_⟩
        rw [sharedMarks_cons_of_all hall, sharedMarks_cons_of_not_all hstays, hnone, List.nil_append]
    · rw [sharedMarks_cons_of_not_all hall] at h
      obtain ⟨mark', hmark', more, heq⟩ := ih hmarks hnames h
      refine ⟨mark', List.mem_cons_of_mem _ hmark', more, ?_⟩
      rw [sharedMarks_cons_of_not_all hall, sharedMarks_further_of_not_all hall, heq]

end

end SequenceClassification.Weights
