import SequenceClassification.Pipeline
import SequenceClassification.Proofs.Outcome
import SequenceClassification.Proofs.Sorting

/-!
What padding makes of sequences. Writing a sequence into its row leaves all other rows as they are, so in the
end a batch has a row for each sequence, which begins with it and is filled up with the padding id; the mask
is one exactly over the sequence, so that it is recovered even if the padding id is among its tokens. Main
statement: the ids of encoded texts make a batch exactly if all of them, and the padding id, are token ids.
-/
namespace SequenceClassification

theorem modify_first_left {α β : Type} (row : β → α) (x : α) (f : α → α) (written : List β) (left : Nat) :
    (written.map row ++ List.replicate (left + 1) x).modify written.length f =
      written.map row ++ f x :: List.replicate left x := by
  have h := List.modifyTailIdx_add (List.modifyHead f) 0 (written.map row) (List.replicate (left + 1) x)
  rwa [List.length_map] at h

namespace Batch

/-- A batch with sequences in its first rows, and rows left into which none is written yet. -/
def begun (width : Nat) (padId : Int) (written : List (List Int)) (left : Nat) : Batch where
  width := width
  ids := written.map (padRow width padId) ++ List.replicate left (List.replicate width padId)
  mask := written.map (maskRow width) ++ List.replicate left (List.replicate width 0)

theorem overwrite_replicate (front : List Int) (width : Nat) (x : Int) :
    overwrite front (List.replicate width x) = front ++ List.replicate (width - front.length) x := by
  rw [overwrite, List.drop_replicate]

/-- Writing a sequence turns the first row that is left into its row. -/
theorem write_begun (width : Nat) (padId : Int) (written : List (List Int)) (left : Nat) (s : List Int) :
    (begun width padId written (left + 1)).write written.length s =
      begun width padId (written ++ [s]) left := by
  simp only [write, begun, modify_first_left, overwrite_replicate, List.length_replicate, List.map_append,
    List.map_cons, List.map_nil, List.append_assoc, List.singleton_append, padRow, maskRow]

/-- Writing sequences into the rows that are left, by induction on them: up to a token out of range every
step writes one more row. -/
theorem writeFrom_begun (width : Nat) (padId : Int) (written rest : List (List Int)) :
    writeFrom written.length rest (begun width padId written rest.length) =
      if rest.all (fun s => s.all isTokenId) then .ok (begun width padId (written ++ rest) 0)
      else .error .tokenOutOfRange := by
  induction rest generalizing written with
  | nil => rw [List.append_nil]; rfl
  | cons s rest ih =>
    have hstep := ih (written ++ [s])
    rw [List.length_append, List.append_assoc] at hstep
    rw [writeFrom, List.length_cons, write_begun, List.all_cons]
    cases s.all isTokenId with
    | true => exact hstep
    | false => rfl

/-- A row of ids and a row of the mask that stand for a sequence. -/
structure PadsRow (width : Nat) (padId : Int) (s row mask : List Int) : Prop where
  length_row : row.length = width
  length_mask : mask.length = width
  front : ∀ j < s.length, row[j]? = s[j]? ∧ mask[j]? = some 1
  rest : ∀ j, s.length ≤ j → j < width → row[j]? = some padId ∧ mask[j]? = some 0

theorem padsRow {width : Nat} {s : List Int} (padId : Int) (h : s.length ≤ width) :
    PadsRow width padId s (padRow width padId s) (maskRow width s) where
  length_row := length_padRow padId h
  length_mask := length_maskRow h
  front j hj := by
    have hmask : j < (List.replicate s.length (1 : Int)).length := by rwa [List.length_replicate]
    rw [padRow, maskRow, List.getElem?_append_left hj, List.getElem?_append_left hmask,
      List.getElem?_replicate, if_pos hj]
    exact ⟨rfl, rfl⟩
  rest j hj hwidth := by
    have hmask : (List.replicate s.length (1 : Int)).length ≤ j := by rwa [List.length_replicate]
    rw [padRow, maskRow, List.getElem?_append_right hj, List.getElem?_append_right hmask,
      List.length_replicate, List.getElem?_replicate, List.getElem?_replicate, if_pos (by omega),
      if_pos (by omega)]
    exact ⟨rfl, rfl⟩

/-- No sequence is longer than the longest. -/
theorem length_le_longest {sequences : List (List Int)} {s : List Int} (h : s ∈ sequences) :
    s.length ≤ longest sequences := (le_foldl_max List.length sequences 0).2 s h

theorem exists_length_eq_longest {sequences : List (List Int)} (h : sequences ≠ []) :
    ∃ s ∈ sequences, s.length = longest sequences := by
  rcases foldl_max_eq List.length sequences 0 with hzero | hlongest
  · obtain ⟨s, hs⟩ := List.exists_mem_of_ne_nil _ h
    have hle : s.length ≤ longest sequences := length_le_longest hs
    exact ⟨s, hs, by rw [longest, hzero] at hle ⊢; omega⟩
  · exact hlongest

/-- A batch that stands for sequences, each in its row, as wide as the longest of them. -/
structure Pads (sequences : List (List Int)) (padId : Int) (b : Batch) : Prop where
  length_ids : b.ids.length = sequences.length
  length_mask : b.mask.length = sequences.length
  length_le : ∀ s ∈ sequences, s.length ≤ b.width
  widest : ∃ s ∈ sequences, s.length = b.width
  rows : ∀ (i : Nat) s, sequences[i]? = some s → ∃ row mask, b.ids[i]? = some row ∧
    b.mask[i]? = some mask ∧ PadsRow b.width padId s row mask ∧ unmask row mask = s

/-- Sequences make a batch exactly if there are any, of token ids, and the padding id is one. -/
theorem pad_eq_ok_iff {sequences : List (List Int)} {padId : Int} {b : Batch} :
    pad sequences padId = .ok b ↔
      (sequences ≠ [] ∧ isTokenId padId = true ∧ ∀ s ∈ sequences, ∀ id ∈ s, isTokenId id = true) ∧
      b = ⟨longest sequences, sequences.map (padRow (longest sequences) padId),
        sequences.map (maskRow (longest sequences))⟩ := by
  have hall : sequences.all (fun s => s.all isTokenId) = true ↔
      ∀ s ∈ sequences, ∀ id ∈ s, isTokenId id = true := by simp only [List.all_eq_true]
  have hwritten := writeFrom_begun (longest sequences) padId [] sequences
  simp only [begun, List.map_nil, List.nil_append, List.replicate_zero, List.append_nil,
    List.length_nil] at hwritten
  rw [← hall, ne_eq, ← List.isEmpty_iff, pad, blank, hwritten]
  cases sequences.isEmpty <;> cases isTokenId padId <;>
    cases sequences.all (fun s => s.all isTokenId) <;> simp [eq_comm]

theorem pads_of_pad {sequences : List (List Int)} {padId : Int} {b : Batch}
    (h : pad sequences padId = .ok b) : Pads sequences padId b := by
  obtain ⟨⟨hne, -, -⟩, rfl⟩ := pad_eq_ok_iff.1 h
  refine ⟨List.length_map _, List.length_map _, fun s hs => length_le_longest hs,
    exists_length_eq_longest hne, fun i s hs => ?_⟩
  refine ⟨padRow (longest sequences) padId s, maskRow (longest sequences) s, ?_, ?_,
    padsRow padId (length_le_longest (List.mem_of_getElem? hs)), unmask_padRow _ _ _⟩
  · rw [List.getElem?_map, hs]
    rfl
  · rw [List.getElem?_map, hs]
    rfl

end Batch

theorem forall₂_and_iff {α β : Type} {R : α → β → Prop} {P : β → Prop} {xs : List α} {ys : List β} :
    List.Forall₂ (fun x y => R x y ∧ P y) xs ys ↔ List.Forall₂ R xs ys ∧ ∀ y ∈ ys, P y := by
  induction ys generalizing xs with
  | nil => simp
  | cons y ys ih =>
    rw [List.forall₂_cons_right_iff, List.forall₂_cons_right_iff, List.forall_mem_cons]
    constructor
    · rintro ⟨x, rest, ⟨hx, hy⟩, hrest, rfl⟩
      obtain ⟨hrest, hall⟩ := ih.1 hrest
      exact ⟨⟨x, rest, hx, hrest, rfl⟩, hy, hall⟩
    · rintro ⟨⟨x, rest, hx, hrest, rfl⟩, hy, hall⟩
      exact ⟨x, rest, ⟨hx, hy⟩, ih.2 ⟨hrest, hall⟩, rfl⟩

theorem exists_eq_map_iff {α β : Type} {f : β → α} {P : β → Prop} {xs : List α} :
    (∃ ys : List β, xs = ys.map f ∧ ∀ y ∈ ys, P y) ↔ ∀ x ∈ xs, ∃ y, x = f y ∧ P y := by
  constructor
  · rintro ⟨ys, rfl, hall⟩ x hx
    obtain ⟨y, hy, rfl⟩ := List.mem_map.1 hx
    exact ⟨y, rfl, hall y hy⟩
  · intro h
    induction xs with
    | nil => exact ⟨[], rfl, fun y hy => absurd hy List.not_mem_nil⟩
    | cons x xs ih =>
      obtain ⟨⟨y, rfl, hy⟩, hrest⟩ := List.forall_mem_cons.1 h
      obtain ⟨ys, rfl, hall⟩ := ih hrest
      exact ⟨y :: ys, rfl, List.forall_mem_cons.2 ⟨hy, hall⟩⟩

namespace Tokenizer.TokenId

/-- The number that an id is in a batch, where fractions are dropped. -/
def number? : TokenId → Option Int
  | .whole n => some n
  | .fraction x => if x.isNaN || x.isInf then none else some (Decimal.truncate x)
  | .missing | .text _ => none

theorem suppliedTokenId_value_iff (id : TokenId) (n : Int) :
    suppliedTokenId id.value = .ok n ↔ id.number? = some n := by
  cases id with
  | missing => exact iff_of_false (fun h => nomatch h) (fun h => nomatch h)
  | text s => exact iff_of_false (fun h => nomatch h) (fun h => nomatch h)
  | whole k => rw [value, suppliedTokenId, number?, Except.ok.injEq, Option.some.injEq]
  | fraction x =>
    rw [value, suppliedTokenId, number?]
    cases x.isNaN <;> cases x.isInf <;> simp

end Tokenizer.TokenId

theorem suppliedToken_eq_ok_iff {v : Json} {n : Int} :
    suppliedToken v = .ok n ↔ suppliedTokenId v = .ok n ∧ isTokenId n = true := by
  constructor
  · intro h
    obtain ⟨k, hk, h⟩ := bind_eq_ok h
    split at h
    · rename_i htoken
      obtain rfl := Except.ok.inj h
      exact ⟨hk, htoken⟩
    · cases h
  · rintro ⟨hn, htoken⟩
    rw [suppliedToken, hn, ok_bind, if_pos htoken]
    rfl

/-- What is supplied makes a batch if it is sequences of numbers and a number to pad them with: that of the
numbers. -/
theorem suppliedBatch_eq_ok_iff {sequences : List (List Json)} {padId : Json} {b : Batch} :
    suppliedBatch sequences padId = .ok b ↔ ∃ rows pad, suppliedTokenId padId = .ok pad ∧
      List.Forall₂ (List.Forall₂ fun v n => suppliedTokenId v = .ok n) sequences rows ∧
      Batch.pad rows pad = .ok b := by
  have hrows : ∀ rows, sequences.mapM (fun s => s.mapM suppliedToken) = .ok rows ↔
      List.Forall₂ (List.Forall₂ fun v n => suppliedTokenId v = .ok n) sequences rows ∧
        ∀ row ∈ rows, ∀ n ∈ row, isTokenId n = true := by
    simp only [mapM_eq_ok_iff, suppliedToken_eq_ok_iff, forall₂_and_iff, implies_true]
  constructor
  · intro h
    cases hempty : sequences.isEmpty with
    | true =>
      rw [suppliedBatch, hempty] at h
      cases h
    | false =>
      rw [suppliedBatch, hempty] at h
      obtain ⟨pad, hpad, h⟩ := bind_eq_ok h
      cases hpadId : isTokenId pad with
      | false =>
        rw [hpadId] at h
        cases h
      | true =>
        rw [hpadId] at h
        obtain ⟨rows, hread, h⟩ := bind_eq_ok h
        exact ⟨rows, pad, hpad, ((hrows rows).1 hread).1, mapError_eq_ok h⟩
  · rintro ⟨rows, pad, hpad, hread, hb⟩
    obtain ⟨⟨hne, hpadId, hall⟩, -⟩ := Batch.pad_eq_ok_iff.1 hb
    have hsome : sequences.isEmpty = false := by
      cases hread with
      | nil => exact absurd rfl hne
      | cons => rfl
    rw [suppliedBatch, hsome, hpad, ok_bind, hpadId, (hrows rows).2 ⟨hread, hall⟩]
    change (Batch.pad rows pad).mapError BatchFault.failure = .ok b
    rw [hb]
    rfl

theorem forall₂_eq_iff {α β γ : Type} {f : α → γ} {g : β → γ} {xs : List α} {ys : List β} :
    List.Forall₂ (fun x y => f x = g y) xs ys ↔ xs.map f = ys.map g := by
  rw [← List.forall₂_eq_eq_eq, List.forall₂_map_left_iff, List.forall₂_map_right_iff]

theorem map_some_injective {α : Type} : Function.Injective (List.map (some : α → Option α)) :=
  List.map_injective_iff.2 fun _ _ => Option.some.inj

/-- Ids that are whole numbers are what they are in a batch. -/
theorem Tokenizer.TokenId.eq_map_whole {ids : List Tokenizer.TokenId} {row : List Int}
    (h : ids.map (·.number?) = row.map some) (hwhole : ∀ id ∈ ids, ∃ n, id = .whole n) :
    ids = row.map .whole := by
  obtain ⟨numbers, rfl, -⟩ := exists_eq_map_iff.2 fun id hid => (hwhole id hid).imp fun _ h => ⟨h, trivial⟩
  rw [List.map_map] at h
  rw [map_some_injective h]

/-- Ids make a batch if they, and that of the padding, are numbers: that of the numbers. -/
theorem suppliedBatch_ids_iff {encoded : List (List Tokenizer.TokenId)} {padId : Tokenizer.TokenId}
    {b : Batch} :
    suppliedBatch (encoded.map fun ids => ids.map (·.value)) padId.value = .ok b ↔
      ∃ rows pad, padId.number? = some pad ∧
        encoded.map (fun ids => ids.map (·.number?)) = rows.map (List.map some) ∧
        Batch.pad rows pad = .ok b := by
  simp only [suppliedBatch_eq_ok_iff, Tokenizer.TokenId.suppliedTokenId_value_iff,
    List.forall₂_map_left_iff, forall₂_eq_iff]

end SequenceClassification
