import Mathlib.Data.List.Forall2
import SequenceClassification.Table.Column

/-!
What a column is read as. The kind of a part is decided over all of its cells: one cell that is no number
makes texts of the numbers beside it; and the kind of the column is decided over its parts. Main statement:
where no cell counts as missing, and only there, a column has a value for each of them, and these are the
values of its parts, brought to their common kind.
-/
namespace SequenceClassification.Table

/-- Whole numbers are given up for decimals: of the cells that are none, the first is no number at all.
Where it is one out of range, the same is asked of unsigned numbers. -/
def LeavesWhole (cells : List (List Char)) : Prop :=
  firstFault signedCell cells = some .noNumber ∨
    firstFault signedCell cells = some .outOfRange ∧ firstFault unsignedCell cells = some .noNumber

/-- No cell counts as missing: of the cells that are no signed numbers, the first is one out of range, the
unsigned ones have no fault, and one of them is too large to be signed. -/
structure KeepsMissing (cells : List (List Char)) : Prop where
  signed : firstFault signedCell cells = some .outOfRange
  unsigned : firstFault unsignedCell cells = none
  large : ∃ cell ∈ cells, isLarge cell = true

/-- The kind and the values of a part in which no cell counts as missing. It is of the first kind that all its
cells allow: whole numbers, large whole numbers, decimals, truth values, texts. Whole numbers that are too
large in any case are texts as well, and so are large ones beside what means a missing cell. -/
inductive PartReadsAs (cells : List (List Char)) : Kind → List Json → Prop
  | whole {ns : List Int} (h : List.Forall₂ (fun cell n => signedCell cell = .ok n) cells ns) :
    PartReadsAs cells .signed (ns.map .int)
  | large {ns : List Nat} (h : List.Forall₂ (fun cell n => unsignedCell cell = .ok (some n)) cells ns)
    (hlarge : ∃ cell ∈ cells, signedCell cell = .error .outOfRange) :
    PartReadsAs cells .unsigned (ns.map fun (n : Nat) => .int n)
  | decimal {xs : List Float} (h : List.Forall₂ (fun cell x => floatCell cell = some x) cells xs)
    (hleaves : LeavesWhole cells) : PartReadsAs cells .decimal (xs.map .float)
  | truth {bs : List Bool} (h : List.Forall₂ (fun cell b => truthCell cell = some b) cells bs)
    (hne : cells ≠ []) : PartReadsAs cells .truth (bs.map .bool)
  | text (hpresent : ∀ cell ∈ cells, isMissing cell = false)
    (hwhole : ∃ cell ∈ cells, ∀ n, signedCell cell ≠ .ok n)
    (hlarge : ∃ cell ∈ cells, ∀ n, unsignedCell cell ≠ .ok (some n))
    (hdecimal : (∃ cell ∈ cells, floatCell cell = none) ∨ ¬ LeavesWhole cells)
    (htruth : ∃ cell ∈ cells, truthCell cell = none) :
    PartReadsAs cells .object (cells.map fun cell => .str (String.ofList cell))
  | kept (hkeeps : KeepsMissing cells) (hmissing : ∃ cell ∈ cells, isMissing cell = true) :
    PartReadsAs cells .object (cells.map fun cell => .str (String.ofList cell))

/-- The values of a column in which no cell counts as missing and of which a given number of rows is read
together: those of its parts, brought to the kind that the parts have in common. -/
def ReadsAs (together : ℕ) (cells : List (List Char)) (values : List Json) : Prop :=
  ∃ parts : List (Kind × List Json),
    List.Forall₂ (fun slice p => PartReadsAs slice p.1 p.2) (slicesOf (together - 1) cells) parts ∧
    values = parts.flatMap fun p => p.2.map (Kind.joinAll (parts.map Prod.fst)).cast

section
variable {α β : Type} {R : α → β → Prop} {xs : List α} {ys : List β}

theorem exists_of_mem (h : List.Forall₂ R xs ys) : ∀ x ∈ xs, ∃ y ∈ ys, R x y := by
  induction h with
  | nil => nofun
  | @cons x y xs ys hxy hrest ih =>
    intro z hz
    rcases List.mem_cons.1 hz with rfl | hz
    · exact ⟨y, List.mem_cons_self, hxy⟩
    · obtain ⟨w, hw, hzw⟩ := ih z hz
      exact ⟨w, List.mem_cons_of_mem _ hw, hzw⟩

theorem exists_forall₂ (h : ∀ x ∈ xs, ∃ y, R x y) : ∃ ys, List.Forall₂ R xs ys := by
  induction xs with
  | nil => exact ⟨[], .nil⟩
  | cons x xs ih =>
    obtain ⟨y, hy⟩ := h x List.mem_cons_self
    obtain ⟨ys, hys⟩ := ih fun z hz => h z (List.mem_cons_of_mem _ hz)
    exact ⟨y :: ys, .cons hy hys⟩

theorem mapM_eq_some_iff {f : α → Option β} :
    xs.mapM f = some ys ↔ List.Forall₂ (fun x y => f x = some y) xs ys := by
  induction xs generalizing ys with
  | nil =>
    rw [List.forall₂_nil_left_iff]
    exact ⟨fun h => (Option.some.inj h).symm, fun h => congrArg some h.symm⟩
  | cons x xs ih =>
    simp only [List.mapM_cons, bind, Option.bind_eq_some_iff, pure, Option.some.injEq,
      List.forall₂_cons_left_iff]
    constructor
    · rintro ⟨y, hy, zs, hzs, rfl⟩
      exact ⟨y, zs, hy, ih.1 hzs, rfl⟩
    · rintro ⟨y, zs, hy, hzs, rfl⟩
      exact ⟨y, hy, zs, ih.2 hzs, rfl⟩

theorem mapM_eq_none {f : α → Option β} (h : ∃ x ∈ xs, f x = none) : xs.mapM f = none := by
  obtain ⟨x, hx, hnone⟩ := h
  rw [Option.eq_none_iff_forall_ne_some]
  intro ys hys
  obtain ⟨y, -, hy⟩ := exists_of_mem (mapM_eq_some_iff.1 hys) x hx
  cases hnone.symm.trans hy

end

/-- What is missing is nothing that could be read. -/
theorem unread_of_isMissing {cell : List Char} (h : isMissing cell = true) :
    (signedCell cell).toOption = none ∧ (unsignedCell cell).toOption.join = none ∧
      floatCell cell = none ∧ truthCell cell = none := by
  have hall : ∀ s ∈ missingTexts, (signedCell s.toList).toOption = none ∧
      (unsignedCell s.toList).toOption.join = none ∧ floatCell s.toList = none ∧
      truthCell s.toList = none := by decide +kernel
  have hmem : String.ofList cell ∈ missingTexts := by simpa [isMissing] using h
  simpa using hall _ hmem

section
variable {α : Type} {read : List Char → Option α} {cells : List (List Char)}

theorem readAll_of_forall₂ (hread : ∀ cell, isMissing cell = true → read cell = none) {xs : List α}
    (h : List.Forall₂ (fun cell x => read cell = some x) cells xs) :
    readAll read cells = some (xs.map some) := by
  rw [readAll, mapM_eq_some_iff, List.forall₂_map_right_iff]
  refine h.imp fun cell x hcell => ?_
  have hpresent : ¬ isMissing cell = true := fun hm => by simp [hread cell hm] at hcell
  rw [if_neg hpresent, hcell]
  rfl

theorem readAll_eq_none (hpresent : ∀ cell ∈ cells, isMissing cell = false)
    (h : ∃ cell ∈ cells, read cell = none) : readAll read cells = none := by
  obtain ⟨cell, hcell, hnone⟩ := h
  exact mapM_eq_none ⟨cell, hcell, by simp [hpresent cell hcell, hnone]⟩

/-- A missing cell has no value. -/
theorem none_mem_of_readAll {vs : List (Option α)} (h : readAll read cells = some vs) {cell : List Char}
    (hcell : cell ∈ cells) (hmissing : isMissing cell = true) : none ∈ vs := by
  obtain ⟨v, hv, hvalue⟩ := exists_of_mem (mapM_eq_some_iff.1 h) cell hcell
  rw [if_pos hmissing] at hvalue
  rwa [← Option.some.inj hvalue] at hv

theorem present_of_read (hread : ∀ cell, isMissing cell = true → read cell = none) {xs : List α}
    (h : List.Forall₂ (fun cell x => read cell = some x) cells xs) :
    ∀ cell ∈ cells, isMissing cell = false := by
  intro cell hcell
  obtain ⟨x, -, hx⟩ := exists_of_mem h cell hcell
  rw [Bool.eq_false_iff]
  intro hm
  rw [hread cell hm] at hx
  cases hx

end

section
variable {α : Type} {read : List Char → Except WholeFault α} {cells : List (List Char)}

theorem firstFault_eq_none (h : ∀ cell ∈ cells, ∃ a, read cell = .ok a) : firstFault read cells = none := by
  rw [firstFault, List.findSome?_eq_none_iff]
  intro cell hcell
  obtain ⟨a, ha⟩ := h cell hcell
  simp [ha]

theorem exists_of_firstFault {f : WholeFault} (h : firstFault read cells = some f) :
    ∃ cell ∈ cells, read cell = .error f := by
  obtain ⟨cell, hcell, hfault⟩ := List.exists_of_findSome?_eq_some h
  refine ⟨cell, hcell, ?_⟩
  cases hm : isMissing cell <;> cases hr : read cell <;> simp_all

theorem exists_firstFault (hpresent : ∀ cell ∈ cells, isMissing cell = false)
    (h : ∃ cell ∈ cells, ∀ a, read cell ≠ .ok a) : ∃ f, firstFault read cells = some f := by
  obtain ⟨cell, hcell, hread⟩ := h
  cases hf : firstFault read cells with
  | some f => exact ⟨f, rfl⟩
  | none =>
    have hall := List.findSome?_eq_none_iff.1 hf cell hcell
    cases hr : read cell with
    | ok a => exact absurd hr (hread a)
    | error f => simp [hpresent cell hcell, hr] at hall

theorem firstFault_of_only {f : WholeFault} (hpresent : ∀ cell ∈ cells, isMissing cell = false)
    (hfault : ∃ cell ∈ cells, read cell = .error f)
    (honly : ∀ cell ∈ cells, ∀ g, read cell = .error g → g = f) : firstFault read cells = some f := by
  obtain ⟨cell, hcell, hread⟩ := hfault
  have hno : ∀ a, read cell ≠ .ok a := fun a => by rw [hread]; nofun
  obtain ⟨g, hg⟩ := exists_firstFault hpresent ⟨cell, hcell, hno⟩
  obtain ⟨d, hd, hother⟩ := exists_of_firstFault hg
  rw [hg, honly d hd g hother]

end

/-- Digits that are read under one bound are read under any other, or are out of its range. -/
theorem wholeDigits_of_ok {bound n : Nat} {s : List Char} (h : wholeDigits bound s = .ok n) (other : Nat) :
    wholeDigits other s = .ok n ∨ wholeDigits other s = .error .outOfRange := by
  unfold wholeDigits at h ⊢
  dsimp only at h ⊢
  split at h
  · cases h
  · rename_i hdigits
    rw [if_neg hdigits]
    split at h
    · cases h
    · split at h
      · rename_i hblank
        rw [if_pos hblank]
        cases h
        split
        · exact .inr rfl
        · exact .inl rfl
      · cases h

/-- An unsigned number is a signed one, or is out of their range. -/
theorem signedCell_ne_noNumber {cell : List Char} {n : Nat} (h : unsignedCell cell = .ok (some n)) :
    signedCell cell ≠ .error .noNumber := by
  have hdigits : ∀ {s : List Char}, (wholeDigits maxUnsigned s).map some = .ok (some n) →
      wholeDigits maxSigned s = .ok n ∨ wholeDigits maxSigned s = .error .outOfRange := by
    intro s hs
    cases hu : wholeDigits maxUnsigned s with
    | error e => rw [hu] at hs; cases hs
    | ok k =>
      rw [hu] at hs
      cases hs
      exact wholeDigits_of_ok hu _
  unfold unsignedCell at h
  unfold signedCell
  split at h
  · cases h
  · rcases hdigits h with hs | hs <;> rw [hs] <;> nofun
  · rcases hdigits h with hs | hs <;> rw [hs] <;> nofun

theorem eq_of_toLower {c d : Char} (hd : d = 't' ∨ d = 'f') (h : c.toLower = d) :
    c = d ∨ c = d.toUpper := by
  unfold Char.toLower at h
  split at h
  · have hval : c.val = d.val - ('a'.val - 'A'.val) := by
      rw [← h]
      simp
    right
    apply Char.ext
    rw [hval]
    rcases hd with rfl | rfl <;> decide
  · exact .inl h

/-- A truth value is no number: its name begins with a letter, and is not that of an infinite value. -/
theorem unread_of_truthCell {cell : List Char} {b : Bool} (h : truthCell cell = some b) :
    signedCell cell = .error .noNumber ∧ floatCell cell = none := by
  have hname : cell.map Char.toLower = "true".toList ∨ cell.map Char.toLower = "false".toList := by
    simp only [truthCell, beq_iff_eq] at h
    split at h
    · rename_i htrue
      exact .inl (by rw [← htrue, String.toList_ofList])
    · split at h
      · rename_i hfalse
        exact .inr (by rw [← hfalse, String.toList_ofList])
      · cases h
  have hinfinite : infiniteName? cell = none := by
    rcases hname with hname | hname <;> rw [infiniteName?, hname] <;> rfl
  obtain _ | ⟨c, rest⟩ := cell
  · rcases hname with hname | hname <;> cases hname
  have hc : c = 't' ∨ c = 'T' ∨ c = 'f' ∨ c = 'F' := by
    rcases hname with hname | hname
    · have hlower : c.toLower = 't' := (List.cons.inj hname).1
      rcases eq_of_toLower (.inl rfl) hlower with hc | hc
      · exact .inl hc
      · exact .inr (.inl hc)
    · have hlower : c.toLower = 'f' := (List.cons.inj hname).1
      rcases eq_of_toLower (.inr rfl) hlower with hc | hc
      · exact .inr (.inr (.inl hc))
      · exact .inr (.inr (.inr hc))
  -- whatever follows the letter, no digit has been seen when it is met
  rw [floatCell, hinfinite]
  rcases hc with rfl | rfl | rfl | rfl <;> exact ⟨rfl, rfl⟩

section
variable {cells : List (List Char)} (hpresent : ∀ cell ∈ cells, isMissing cell = false)
include hpresent

theorem asTexts_of_present : asTexts cells = asKeptTexts cells := by
  refine congrArg (Part.mk .object) (List.map_congr_left fun cell hcell => ?_)
  simp [hpresent cell hcell]

theorem asDecimals_of_unread (h : ∃ cell ∈ cells, floatCell cell = none) :
    asDecimals cells = match readAll truthCell cells with
      | some bs => ⟨if bs.all Option.isSome then .truth else .object, bs.map fun b => b.map .bool⟩
      | none => asTexts cells := by
  have hnone := readAll_eq_none hpresent h
  cases htruth : readAll truthCell cells <;> simp [asDecimals, hnone, htruth]

end

theorem asKeptTexts_eq (cells : List (List Char)) :
    asKeptTexts cells = ⟨.object, (cells.map fun cell => Json.str (String.ofList cell)).map some⟩ := by
  rw [asKeptTexts, List.map_map]
  rfl

theorem readPart_of_leavesWhole {cells : List (List Char)} (h : LeavesWhole cells) :
    readPart cells = asDecimals cells := by
  rcases h with hsigned | ⟨hsigned, hunsigned⟩
  · rw [readPart, hsigned]
  · rw [readPart, hsigned]
    change asUnsigned cells = asDecimals cells
    rw [asUnsigned, hunsigned]

/-- A part that is neither whole numbers nor leaves them for decimals is texts. -/
theorem readPart_of_not_leavesWhole {cells : List (List Char)}
    (hpresent : ∀ cell ∈ cells, isMissing cell = false)
    (hwhole : ∃ cell ∈ cells, ∀ n, signedCell cell ≠ .ok n)
    (hlarge : ∃ cell ∈ cells, ∀ n, unsignedCell cell ≠ .ok (some n)) (h : ¬ LeavesWhole cells) :
    readPart cells = asKeptTexts cells := by
  obtain ⟨hsigned, hunsigned⟩ := not_or.1 h
  obtain ⟨f, hf⟩ := exists_firstFault hpresent hwhole
  rw [readPart, hf]
  cases f with
  | noNumber => exact absurd hf hsigned
  | outOfRange =>
    have hread : (cells.mapM fun cell => (unsignedCell cell).toOption.join) = none := by
      obtain ⟨cell, hcell, hno⟩ := hlarge
      refine mapM_eq_none ⟨cell, hcell, ?_⟩
      rcases hread : unsignedCell cell with e | _ | n
      · rfl
      · rfl
      · exact absurd hread (hno n)
    change asUnsigned cells = asKeptTexts cells
    unfold asUnsigned
    split
    · rename_i hno
      exact absurd ⟨hf, hno⟩ hunsigned
    · exact asTexts_of_present hpresent
    · rw [hread, asTexts_of_present hpresent]
      exact ite_self _

/-- Where nothing counts as missing beside a large number, the cells are texts. -/
theorem readPart_of_keepsMissing {cells : List (List Char)} (h : KeepsMissing cells)
    (hmissing : ∃ cell ∈ cells, isMissing cell = true) : readPart cells = asKeptTexts cells := by
  have hread : (cells.mapM fun cell => (unsignedCell cell).toOption.join) = none := by
    obtain ⟨cell, hcell, hm⟩ := hmissing
    exact mapM_eq_none ⟨cell, hcell, (unread_of_isMissing hm).2.1⟩
  rw [readPart, h.signed]
  change asUnsigned cells = asKeptTexts cells
  rw [asUnsigned, h.unsigned, hread]
  exact if_pos (List.any_eq_true.2 h.large)

example : readPart ["9223372036854775808".toList, "NA".toList] =
    ⟨.object, [some (.str "9223372036854775808"), some (.str "NA")]⟩ := by rfl

theorem readPart_of_whole {cells : List (List Char)} {ns : List Int}
    (h : List.Forall₂ (fun cell n => signedCell cell = .ok n) cells ns) :
    readPart cells = ⟨.signed, (ns.map Json.int).map some⟩ := by
  have hread : readAll (fun cell => (signedCell cell).toOption) cells = some (ns.map some) :=
    readAll_of_forall₂ (fun cell hm => (unread_of_isMissing hm).1)
      (h.imp fun cell n hcell => by rw [hcell]; rfl)
  have hfault : firstFault signedCell cells = none :=
    firstFault_eq_none fun cell hcell => (exists_of_mem h cell hcell).imp fun _ hn => hn.2
  rw [readPart, hfault, hread]
  simp [wholePart]

theorem readPart_of_large {cells : List (List Char)} {ns : List Nat}
    (h : List.Forall₂ (fun cell n => unsignedCell cell = .ok (some n)) cells ns)
    (hlarge : ∃ cell ∈ cells, signedCell cell = .error .outOfRange) :
    readPart cells = ⟨.unsigned, (ns.map fun (n : Nat) => Json.int n).map some⟩ := by
  have hall : List.Forall₂ (fun cell n => (unsignedCell cell).toOption.join = some n) cells ns :=
    h.imp fun cell n hcell => by rw [hcell]; rfl
  have hpresent := present_of_read (fun _ hm => (unread_of_isMissing hm).2.1) hall
  have hsigned : firstFault signedCell cells = some .outOfRange := by
    -- no cell is no number at all, so the first fault is that of a large one
    refine firstFault_of_only hpresent hlarge fun cell hcell g hg => ?_
    obtain ⟨n, -, hn⟩ := exists_of_mem h cell hcell
    cases g with
    | noNumber => exact absurd hg (signedCell_ne_noNumber hn)
    | outOfRange => rfl
  have hunsigned : firstFault unsignedCell cells = none :=
    firstFault_eq_none fun cell hcell => (exists_of_mem h cell hcell).elim fun n hn => ⟨some n, hn.2⟩
  rw [readPart, hsigned]
  change asUnsigned cells = _
  rw [asUnsigned, hunsigned, mapM_eq_some_iff.2 hall, List.map_map]
  rfl

theorem readPart_of_truth {cells : List (List Char)} {bs : List Bool}
    (h : List.Forall₂ (fun cell b => truthCell cell = some b) cells bs) (hne : cells ≠ []) :
    readPart cells = ⟨.truth, (bs.map Json.bool).map some⟩ := by
  have hmissing : ∀ cell, isMissing cell = true → truthCell cell = none :=
    fun _ hm => (unread_of_isMissing hm).2.2.2
  have hpresent := present_of_read hmissing h
  have hunread : ∀ cell ∈ cells, signedCell cell = .error .noNumber ∧ floatCell cell = none :=
    fun cell hcell => (exists_of_mem h cell hcell).elim fun b hb => unread_of_truthCell hb.2
  obtain ⟨cell, hcell⟩ := List.exists_mem_of_ne_nil cells hne
  have hsigned : firstFault signedCell cells = some .noNumber := by
    refine firstFault_of_only hpresent ⟨cell, hcell, (hunread cell hcell).1⟩ fun d hd g hg => ?_
    rw [(hunread d hd).1] at hg
    exact (Except.error.inj hg).symm
  rw [readPart, hsigned]
  simp [asDecimals_of_unread hpresent ⟨cell, hcell, (hunread cell hcell).2⟩,
    readAll_of_forall₂ hmissing h]

/-- A part in which no cell counts as missing has the values of its kind. -/
theorem readPart_of_partReadsAs {cells : List (List Char)} {kind : Kind} {values : List Json}
    (h : PartReadsAs cells kind values) : readPart cells = ⟨kind, values.map some⟩ := by
  cases h with
  | whole h => exact readPart_of_whole h
  | large h hlarge => exact readPart_of_large h hlarge
  | decimal h hleaves =>
    have hmissing : ∀ cell, isMissing cell = true → floatCell cell = none :=
      fun _ hm => (unread_of_isMissing hm).2.2.1
    rw [readPart_of_leavesWhole hleaves]
    simp [asDecimals, readAll_of_forall₂ hmissing h]
  | truth h hne => exact readPart_of_truth h hne
  | text hpresent hwhole hlarge hdecimal htruth =>
    rw [← asKeptTexts_eq]
    by_cases hleaves : LeavesWhole cells
    · have hnone := hdecimal.resolve_right (not_not_intro hleaves)
      rw [readPart_of_leavesWhole hleaves, asDecimals_of_unread hpresent hnone,
        readAll_eq_none hpresent htruth, asTexts_of_present hpresent]
    · exact readPart_of_not_leavesWhole hpresent hwhole hlarge hleaves
  | kept hkeeps hmissing =>
    rw [← asKeptTexts_eq]
    exact readPart_of_keepsMissing hkeeps hmissing

/-- Among the values of a part, texts are cells as they are. -/
theorem text_of_partReadsAs {cells : List (List Char)} {kind : Kind} {values : List Json}
    (h : PartReadsAs cells kind values) :
    List.Forall₂ (fun cell v => ∀ s, v = Json.str s → s = String.ofList cell) cells values := by
  have htexts : List.Forall₂ (fun cell v => ∀ s, v = Json.str s → s = String.ofList cell) cells
      (cells.map fun cell => .str (String.ofList cell)) := by
    rw [List.forall₂_map_right_iff, List.forall₂_same]
    intro cell _ s hs
    exact (Json.str.inj hs).symm
  cases h with
  | whole h => exact List.forall₂_map_right_iff.2 (h.imp fun _ _ _ => nofun)
  | large h => exact List.forall₂_map_right_iff.2 (h.imp fun _ _ _ => nofun)
  | decimal h => exact List.forall₂_map_right_iff.2 (h.imp fun _ _ _ => nofun)
  | truth h => exact List.forall₂_map_right_iff.2 (h.imp fun _ _ _ => nofun)
  | text => exact htexts
  | kept => exact htexts

/-- Every part without missing cells has a kind. -/
theorem exists_partReadsAs {cells : List (List Char)} (hpresent : ∀ cell ∈ cells, isMissing cell = false) :
    ∃ kind values, PartReadsAs cells kind values := by
  by_cases hwhole : ∀ cell ∈ cells, ∃ n, signedCell cell = .ok n
  · obtain ⟨ns, hns⟩ := exists_forall₂ hwhole
    exact ⟨_, _, .whole hns⟩
  by_cases htruth : ∀ cell ∈ cells, ∃ b, truthCell cell = some b
  · obtain ⟨bs, hbs⟩ := exists_forall₂ htruth
    refine ⟨_, _, .truth hbs ?_⟩
    rintro rfl
    exact hwhole nofun
  push Not at hwhole
  by_cases hlarge : ∀ cell ∈ cells, ∃ n, unsignedCell cell = .ok (some n)
  · obtain ⟨ns, hns⟩ := exists_forall₂ hlarge
    obtain ⟨cell, hcell, hunread⟩ := hwhole
    obtain ⟨n, hn⟩ := hlarge cell hcell
    refine ⟨_, _, .large hns ⟨cell, hcell, ?_⟩⟩
    rcases hread : signedCell cell with (_ | _) | k
    · exact absurd hread (signedCell_ne_noNumber hn)
    · rfl
    · exact absurd hread (hunread k)
  push Not at hlarge
  simp only [← Option.ne_none_iff_exists', not_forall, not_not, exists_prop] at htruth
  by_cases hleaves : LeavesWhole cells
  · by_cases hdecimal : ∀ cell ∈ cells, ∃ x, floatCell cell = some x
    · obtain ⟨xs, hxs⟩ := exists_forall₂ hdecimal
      exact ⟨_, _, .decimal hxs hleaves⟩
    · simp only [← Option.ne_none_iff_exists', not_forall, not_not, exists_prop] at hdecimal
      exact ⟨_, _, .text hpresent hwhole hlarge (.inl hdecimal) htruth⟩
  · exact ⟨_, _, .text hpresent hwhole hlarge (.inr hleaves) htruth⟩

/-- A missing cell has no value, unless nothing counts as missing. -/
theorem none_mem_readPart {cells : List (List Char)} (hkeeps : ¬ KeepsMissing cells) {cell : List Char}
    (hcell : cell ∈ cells) (hmissing : isMissing cell = true) : none ∈ (readPart cells).values := by
  have htexts : none ∈ (asTexts cells).values := List.mem_map.2 ⟨cell, hcell, by rw [if_pos hmissing]⟩
  have hdecimals : none ∈ (asDecimals cells).values := by
    unfold asDecimals
    split
    · rename_i h
      exact List.mem_map.2 ⟨none, none_mem_of_readAll h hcell hmissing, rfl⟩
    · split
      · rename_i h
        exact List.mem_map.2 ⟨none, none_mem_of_readAll h hcell hmissing, rfl⟩
      · exact htexts
  unfold readPart
  split
  · exact hdecimals
  · rename_i hsigned
    unfold asUnsigned
    split
    · exact hdecimals
    · exact htexts
    · rename_i hunsigned
      rw [mapM_eq_none ⟨cell, hcell, (unread_of_isMissing hmissing).2.1⟩]
      have hnone : ¬ cells.any isLarge = true := fun h => hkeeps ⟨hsigned, hunsigned, List.any_eq_true.1 h⟩
      dsimp only
      rw [if_neg hnone]
      exact htexts
  · split
    · rename_i h
      unfold wholePart
      split
      · exact List.mem_map.2 ⟨none, none_mem_of_readAll h hcell hmissing, rfl⟩
      · exact List.mem_map.2 ⟨none, none_mem_of_readAll h hcell hmissing, rfl⟩
    · exact htexts

/-- A part has a value for every cell exactly if these are the values of its kind. -/
theorem readPart_eq_iff {cells : List (List Char)} {kind : Kind} {values : List Json} :
    readPart cells = ⟨kind, values.map some⟩ ↔ PartReadsAs cells kind values := by
  refine ⟨fun h => ?_, readPart_of_partReadsAs⟩
  have hone : ∀ {kind' values'}, PartReadsAs cells kind' values' → PartReadsAs cells kind values := by
    intro kind' values' h'
    rw [readPart_of_partReadsAs h', Part.mk.injEq] at h
    obtain ⟨rfl, hvalues⟩ := h
    rwa [← List.map_injective_iff.2 (fun _ _ => Option.some.inj) hvalues]
  by_cases hpresent : ∀ cell ∈ cells, isMissing cell = false
  · obtain ⟨kind', values', h'⟩ := exists_partReadsAs hpresent
    exact hone h'
  · push Not at hpresent
    obtain ⟨cell, hcell, hmissing⟩ := hpresent
    rw [ne_eq, Bool.not_eq_false] at hmissing
    by_cases hkeeps : KeepsMissing cells
    · exact hone (.kept hkeeps ⟨cell, hcell, hmissing⟩)
    · have hnone := none_mem_readPart hkeeps hcell hmissing
      rw [h] at hnone
      simp at hnone

/-! ### Columns -/

namespace Kind

@[simp] theorem cast_object (v : Json) : cast .object v = v := by cases v <;> rfl

/-- No other value becomes a text. -/
theorem cast_eq_str {kind : Kind} {v : Json} {s : String} (h : kind.cast v = .str s) : v = .str s := by
  cases kind <;> cases v <;> first | exact h | cases h

theorem joinAll_singleton (kind : Kind) : joinAll [kind] = kind := by cases kind <;> rfl

end Kind

section
variable {together : ℕ} {cells : List (List Char)} {values : List Json}

theorem united_of_present (parts : List (Kind × List Json)) :
    united (parts.map fun p => ⟨p.1, p.2.map some⟩) =
      (parts.flatMap fun p => p.2.map (Kind.joinAll (parts.map Prod.fst)).cast).map some := by
  simp only [united, List.map_map, List.flatMap_map, List.map_flatMap, Function.comp_def, Option.map_some]

theorem columnValues_of_readsAs (h : ReadsAs together cells values) :
    columnValues together cells = values.map some := by
  obtain ⟨parts, hparts, rfl⟩ := h
  have hread : (slicesOf (together - 1) cells).map readPart = parts.map fun p => ⟨p.1, p.2.map some⟩ := by
    rw [← List.forall₂_eq_eq_eq, List.forall₂_map_left_iff, List.forall₂_map_right_iff]
    exact hparts.imp fun slice p hp => readPart_of_partReadsAs hp
  rw [columnValues, hread, united_of_present]

/-- A column has a value for every cell exactly if these are the values of its parts, brought to their common
kind. -/
theorem columnValues_eq_iff :
    columnValues together cells = values.map some ↔ ReadsAs together cells values := by
  refine ⟨fun h => ?_, columnValues_of_readsAs⟩
  have hpart : ∀ slice ∈ slicesOf (together - 1) cells,
      ∃ p : Kind × List Json, PartReadsAs slice p.1 p.2 := by
    intro slice hslice
    have hall : ∀ v ∈ (readPart slice).values, v ≠ none := by
      rintro v hv rfl
      have hnone : none ∈ columnValues together cells :=
        List.mem_flatMap.2 ⟨readPart slice, List.mem_map_of_mem hslice, List.mem_map.2 ⟨none, hv, rfl⟩⟩
      rw [h] at hnone
      simp at hnone
    obtain ⟨vs, hvs⟩ := exists_forall₂ (R := fun v w => v = some w) fun v hv =>
      Option.ne_none_iff_exists'.1 (hall v hv)
    refine ⟨⟨(readPart slice).kind, vs⟩, readPart_eq_iff.1 (Part.mk.injEq .. ▸ ⟨rfl, ?_⟩)⟩
    rw [← List.forall₂_eq_eq_eq, List.forall₂_map_right_iff]
    exact hvs
  obtain ⟨parts, hparts⟩ := exists_forall₂ hpart
  have hreads : ReadsAs together cells
      (parts.flatMap fun p => p.2.map (Kind.joinAll (parts.map Prod.fst)).cast) := ⟨parts, hparts, rfl⟩
  rw [columnValues_of_readsAs hreads] at h
  rwa [← List.map_injective_iff.2 (fun _ _ => Option.some.inj) h]

/-- Among the values of a column, texts are cells as they are. -/
theorem text_of_readsAs (h : ReadsAs together cells values) :
    List.Forall₂ (fun cell v => ∀ s, v = Json.str s → s = String.ofList cell) cells values := by
  obtain ⟨parts, hparts, rfl⟩ := h
  have hslices : List.Forall₂ (List.Forall₂ fun cell v => ∀ s, v = Json.str s → s = String.ofList cell)
      (slicesOf (together - 1) cells)
      (parts.map fun p => p.2.map (Kind.joinAll (parts.map Prod.fst)).cast) := by
    rw [List.forall₂_map_right_iff]
    refine hparts.imp fun slice p hp => ?_
    rw [List.forall₂_map_right_iff]
    exact (text_of_partReadsAs hp).imp fun cell v hv s hs => hv s (Kind.cast_eq_str hs)
  have hall := List.rel_flatten hslices
  rwa [flatten_slicesOf, ← List.flatMap_def] at hall

/-- A cell that is neither a number nor a truth value makes texts of a column that is read at once. -/
theorem readsAs_text (hpresent : ∀ cell ∈ cells, isMissing cell = false) (hlength : cells.length ≤ together)
    (word : List Char) (hmem : word ∈ cells) (hwhole : signedCell word = .error .noNumber)
    (hdecimal : floatCell word = none) (htruth : truthCell word = none) :
    ReadsAs together cells (cells.map fun cell => .str (String.ofList cell)) := by
  have hpart : PartReadsAs cells .object (cells.map fun cell => .str (String.ofList cell)) :=
    .text hpresent ⟨word, hmem, fun n => by rw [hwhole]; nofun⟩
      ⟨word, hmem, fun n hn => signedCell_ne_noNumber hn hwhole⟩ (.inl ⟨word, hmem, hdecimal⟩)
      ⟨word, hmem, htruth⟩
  have hslices : slicesOf (together - 1) cells = [cells] :=
    slicesOf_of_length_le (List.ne_nil_of_mem hmem) (by omega)
  refine ⟨[(.object, cells.map fun cell => .str (String.ofList cell))], ?_, ?_⟩
  · rw [hslices]
    exact .cons hpart .nil
  · simp [Kind.joinAll_singleton]

end

end SequenceClassification.Table
