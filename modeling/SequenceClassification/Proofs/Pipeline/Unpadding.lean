import SequenceClassification.Proofs.Pipeline.Padding

/-!
Getting sequences back from a batch. The ids alone do not tell a token from the padding, but under the ones of
the mask stand exactly the tokens of a row. Main statement: sequences make a batch exactly if there are any and
they and the padding are token ids, and the two matrices then determine the sequences.
-/
namespace SequenceClassification

namespace Batch

def unpad (b : Batch) : List (List Int) := List.zipWith unmask b.ids b.mask

/-- Unpadding is a left inverse of padding. -/
theorem unpad_of_pad {sequences : List (List Int)} {padId : Int} {b : Batch}
    (h : pad sequences padId = .ok b) : b.unpad = sequences := by
  obtain ⟨-, rfl⟩ := pad_eq_ok_iff.1 h
  simp only [unpad, List.zipWith_map, unmask_padRow, List.zipWith_self, List.map_id']

/-- Different sequences make different matrices, whatever they are padded with. -/
theorem pad_injective {sequences sequences' : List (List Int)} {padId padId' : Int} {b b' : Batch}
    (h : pad sequences padId = .ok b) (h' : pad sequences' padId' = .ok b') (hids : b'.ids = b.ids)
    (hmask : b'.mask = b.mask) : sequences' = sequences := by
  rw [← unpad_of_pad h, ← unpad_of_pad h', unpad, unpad, hids, hmask]

/-- Without the mask they do not. -/
example : ((pad [[5], [5, 5]] 5).map ids).toOption = ((pad [[5, 5], [5, 5]] 5).map ids).toOption := by
  decide

end Batch

/-- Whole numbers that are supplied are padded as they are. -/
theorem suppliedBatch_ints_iff {sequences : List (List Int)} {padId : Int} {b : Batch} :
    suppliedBatch (sequences.map fun s => s.map .int) (.int padId) = .ok b ↔
      Batch.pad sequences padId = .ok b := by
  have hrows : ∀ rows, List.Forall₂ (List.Forall₂ fun v n => suppliedTokenId v = .ok n)
      (sequences.map fun s => s.map .int) rows ↔ sequences = rows := by
    simp only [List.forall₂_map_left_iff, suppliedTokenId, Except.ok.injEq, List.forall₂_eq_eq_eq,
      implies_true]
  simp only [suppliedBatch_eq_ok_iff, hrows, suppliedTokenId, Except.ok.injEq, exists_eq_left']

/-- Padding is undone by the mask. There is a batch exactly if there are sequences and all of them and the
padding are token ids. It has a row for each sequence and is as wide as the longest of them; the mask is ones
over the sequence and then zeros, where the row is filled up. So the sequences are got back from the two
matrices, and no other ones make the same two, even if these are padded otherwise. -/
theorem padding_undone (sequences : List (List Int)) (padId : Int) :
    ((∃ b, suppliedBatch (sequences.map fun s => s.map .int) (.int padId) = .ok b) ↔
      sequences ≠ [] ∧ isTokenId padId = true ∧ ∀ s ∈ sequences, ∀ id ∈ s, isTokenId id = true) ∧
    ∀ b, suppliedBatch (sequences.map fun s => s.map .int) (.int padId) = .ok b →
      Batch.Pads sequences padId b ∧ b.unpad = sequences ∧
      ∀ (others : List (List Int)) (otherPadId : Int) (b' : Batch),
        suppliedBatch (others.map fun s => s.map .int) (.int otherPadId) = .ok b' →
        b'.ids = b.ids → b'.mask = b.mask → others = sequences := by
  simp only [suppliedBatch_ints_iff]
  refine ⟨?_, fun b hb => ⟨Batch.pads_of_pad hb, Batch.unpad_of_pad hb, ?_⟩⟩
  · simp only [Batch.pad_eq_ok_iff, exists_and_left, exists_eq, and_true]
  · exact fun others otherPadId b' hb' hids hmask => Batch.pad_injective hb hb' hids hmask

/-- Rows of one token, of none and of two, padded with a token of theirs. -/
theorem padding_undone_of_tokenLikePadding :
    ∃ b, suppliedBatch [[.int 5], [], [.int 1, .int 5]] (.int 5) = .ok b ∧
      b.ids = [[5, 5], [5, 5], [1, 5]] ∧ b.mask = [[1, 0], [0, 0], [1, 1]] ∧
      b.unpad = [[5], [], [1, 5]] := by
  obtain ⟨hreturns, hundone⟩ := padding_undone [[5], [], [1, 5]] 5
  obtain ⟨b, hb⟩ := hreturns.2 ⟨List.cons_ne_nil _ _, by decide, by decide⟩
  obtain ⟨-, hunpad, -⟩ := hundone b hb
  have hmatrices : b = ⟨2, [[5, 5], [5, 5], [1, 5]], [[1, 0], [0, 0], [1, 1]]⟩ :=
    Except.ok.inj (hb.symm.trans rfl)
  exact ⟨b, hb, by rw [hmatrices], by rw [hmatrices], hunpad⟩

end SequenceClassification
