import SequenceClassification.Decoding

/-!
Multi-label decoding row by row. The labels of a row can be found by going along it, and those of a matrix
by going from row to row. Main statement: this is the same as listing all cells that reach the cutoff first
and appending the label of each to those of its text.
-/
namespace SequenceClassification.Decoding

variable {α : Type}

/-- The labels of the classes of a row whose logit reaches the cutoff; its classes are numbered from
`class_`. -/
def selectFrom (A : Score.Arithmetic α) (table : LabelTable) (cutoff : α) (sentence class_ : Nat) :
    List α → Except Fault (List (Label α))
  | [] => .ok []
  | x :: rest =>
    if A.atMost cutoff x then
      match labelOf table sentence class_ (A.sigmoid x) with
      | .error e => .error e
      | .ok label =>
        match selectFrom A table cutoff sentence (class_ + 1) rest with
        | .error e => .error e
        | .ok labels => .ok (label :: labels)
    else selectFrom A table cutoff sentence (class_ + 1) rest

/-- The labels of each of `texts` texts, the rows and texts being numbered from `sentence`. A text without
a row has no label; a row without a text may not select any class. -/
def multiFrom (A : Score.Arithmetic α) (table : LabelTable) (cutoff : α) (sentence : Nat) :
    Nat → List (List α) → Except Fault (List (List (Label α)))
  | texts, [] => .ok (List.replicate texts [])
  | 0, row :: rest =>
    if row.any (A.atMost cutoff) then .error .moreRowsThanTexts
    else multiFrom A table cutoff (sentence + 1) 0 rest
  | texts + 1, row :: rest =>
    match selectFrom A table cutoff sentence 0 row with
    | .error e => .error e
    | .ok labels =>
      match multiFrom A table cutoff (sentence + 1) texts rest with
      | .error e => .error e
      | .ok others => .ok (labels :: others)

section
variable {table : LabelTable}

theorem selectFrom_cons (A : Score.Arithmetic α) (cutoff : α) (sentence class_ : Nat) (x : α)
    (rest : List α) : selectFrom A table cutoff sentence class_ (x :: rest) =
      if A.atMost cutoff x then (labelOf table sentence class_ (A.sigmoid x)).bind fun l =>
        (selectFrom A table cutoff sentence (class_ + 1) rest).map fun ls => l :: ls
      else selectFrom A table cutoff sentence (class_ + 1) rest := by
  rw [selectFrom]
  cases labelOf table sentence class_ (A.sigmoid x) with
  | error e => rfl
  | ok l => cases selectFrom A table cutoff sentence (class_ + 1) rest <;> rfl

theorem multiFrom_cons (A : Score.Arithmetic α) (cutoff : α) (sentence texts : Nat) (row : List α)
    (rest : List (List α)) : multiFrom A table cutoff sentence (texts + 1) (row :: rest) =
      (selectFrom A table cutoff sentence 0 row).bind fun ls =>
        (multiFrom A table cutoff (sentence + 1) texts rest).map fun lss => ls :: lss := by
  rw [multiFrom]
  cases selectFrom A table cutoff sentence 0 row with
  | error e => rfl
  | ok ls => cases multiFrom A table cutoff (sentence + 1) texts rest <;> rfl

/-- Multi-label decoding answers with one list for each text. -/
theorem length_multiFrom {A : Score.Arithmetic α} {cutoff : α} {sentence texts : Nat}
    {rows : List (List α)} {labels : List (List (Label α))}
    (h : multiFrom A table cutoff sentence texts rows = .ok labels) : labels.length = texts := by
  fun_induction multiFrom A table cutoff sentence texts rows generalizing labels with
  | case1 => cases h; simp
  | case2 => cases h
  | case3 _ _ _ _ ih => exact ih h
  | case4 => cases h
  | case5 => cases h
  | case6 _ _ _ _ _ _ _ hr ih =>
    cases h
    simp [ih hr]

variable {A : Score.Arithmetic α} {cutoff : α}

/-- The cells of a row that reach the cutoff; its classes are numbered from `class_`. -/
def cellsFrom (A : Score.Arithmetic α) (cutoff : α) (sentence class_ : Nat) (row : List α) : List (Cell α) :=
  ((row.zipIdx class_).filter fun p => A.atMost cutoff p.1).map fun (x, class_) => ⟨sentence, class_, x⟩

theorem cellsFrom_cons (sentence class_ : Nat) (x : α) (rest : List α) :
    cellsFrom A cutoff sentence class_ (x :: rest) =
      if A.atMost cutoff x then ⟨sentence, class_, x⟩ :: cellsFrom A cutoff sentence (class_ + 1) rest
      else cellsFrom A cutoff sentence (class_ + 1) rest := by
  rw [cellsFrom, List.zipIdx_cons, List.filter_cons]
  split <;> rfl

/-- Appending the labels of the cells of a row puts them after those that its text has. -/
theorem foldlM_cellsFrom (before after : List (List (Label α))) (labels : List (Label α)) (class_ : Nat)
    (row : List α) :
    (cellsFrom A cutoff before.length class_ row).foldlM (appendLabel A table) (before ++ labels :: after) =
      (selectFrom A table cutoff before.length class_ row).map fun ls => before ++ (labels ++ ls) :: after := by
  induction row generalizing labels class_ with
  | nil => simp [cellsFrom, selectFrom, Except.map, pure, Except.pure]
  | cons x rest ih =>
    rw [cellsFrom_cons, selectFrom_cons]
    split
    · have hget : (before ++ labels :: after)[before.length]? = some labels := by simp
      rw [List.foldlM_cons, appendLabel, hget]
      dsimp only
      cases labelOf table before.length class_ (A.sigmoid x) with
      | error e => rfl
      | ok l =>
        have hset : (before ++ labels :: after).set before.length (labels ++ [l]) =
            before ++ (labels ++ [l]) :: after := by simp
        change (cellsFrom A cutoff before.length (class_ + 1) rest).foldlM (appendLabel A table)
          ((before ++ labels :: after).set before.length (labels ++ [l])) = _
        rw [hset, ih (labels ++ [l]) (class_ + 1)]
        cases selectFrom A table cutoff before.length (class_ + 1) rest with
        | error e => rfl
        | ok ls => simp [Except.map, Except.bind]
    · exact ih labels (class_ + 1)

/-- A cell of a row without a text ends decoding. -/
theorem foldlM_cellsFrom_of_length_le {lists : List (List (Label α))} {sentence : Nat}
    (h : lists.length ≤ sentence) (class_ : Nat) (row : List α) :
    (cellsFrom A cutoff sentence class_ row).foldlM (appendLabel A table) lists =
      if row.any (A.atMost cutoff) then .error .moreRowsThanTexts else .ok lists := by
  induction row generalizing class_ with
  | nil => rfl
  | cons x rest ih =>
    rw [cellsFrom_cons, List.any_cons]
    cases A.atMost cutoff x with
    | true =>
      rw [if_pos rfl, List.foldlM_cons, appendLabel, List.getElem?_eq_none h]
      rfl
    | false => simpa using ih (class_ + 1)

/-- The cells of a matrix that reach the cutoff; its rows are numbered from `sentence`. -/
def cellsOfRows (A : Score.Arithmetic α) (cutoff : α) (sentence : Nat) (rows : List (List α)) :
    List (Cell α) :=
  (rows.zipIdx sentence).flatMap fun (row, sentence) => cellsFrom A cutoff sentence 0 row

theorem foldlM_cellsOfRows_of_length_le {lists : List (List (Label α))} {sentence : Nat}
    (h : lists.length ≤ sentence) (rows : List (List α)) :
    (cellsOfRows A cutoff sentence rows).foldlM (appendLabel A table) lists =
      (multiFrom A table cutoff sentence 0 rows).map fun others => lists ++ others := by
  induction rows generalizing sentence with
  | nil => simp [cellsOfRows, multiFrom, Except.map, pure, Except.pure]
  | cons row rest ih =>
    rw [cellsOfRows, List.zipIdx_cons, List.flatMap_cons, List.foldlM_append,
      foldlM_cellsFrom_of_length_le h 0 row, multiFrom]
    split
    · rfl
    · exact ih (Nat.le_succ_of_le h)

/-- Rows are added to the lists of the texts before them. -/
theorem foldlM_cellsOfRows (before : List (List (Label α))) (texts : Nat) (rows : List (List α)) :
    (cellsOfRows A cutoff before.length rows).foldlM (appendLabel A table)
        (before ++ List.replicate texts []) =
      (multiFrom A table cutoff before.length texts rows).map fun lists => before ++ lists := by
  induction rows generalizing before texts with
  | nil => rfl
  | cons row rest ih =>
    cases texts with
    | zero =>
      rw [List.replicate_zero, List.append_nil]
      exact foldlM_cellsOfRows_of_length_le (Nat.le_refl _) (row :: rest)
    | succ texts =>
      rw [cellsOfRows, List.zipIdx_cons, List.flatMap_cons, List.foldlM_append, List.replicate_succ,
        foldlM_cellsFrom before _ [] 0 row, multiFrom_cons]
      cases selectFrom A table cutoff before.length 0 row with
      | error e => rfl
      | ok ls =>
        have hrest := ih (before ++ [ls]) texts
        rw [List.length_append, List.length_singleton] at hrest
        simp only [List.append_assoc, List.singleton_append] at hrest
        change (cellsOfRows A cutoff (before.length + 1) rest).foldlM (appendLabel A table)
          (before ++ ls :: List.replicate texts []) = _
        rw [hrest]
        cases multiFrom A table cutoff (before.length + 1) texts rest <;> rfl

/-- Multi-label decoding goes from row to row. -/
theorem multi_eq_multiFrom (A : Score.Arithmetic α) (table : LabelTable) (cutoff : α) (texts : Nat)
    (rows : List (List α)) : multi A table cutoff texts rows = multiFrom A table cutoff 0 texts rows := by
  have h : multi A table cutoff texts rows = (multiFrom A table cutoff 0 texts rows).map fun lists => [] ++ lists :=
    foldlM_cellsOfRows [] texts rows
  rw [h]
  cases multiFrom A table cutoff 0 texts rows <;> rfl

end

end SequenceClassification.Decoding
