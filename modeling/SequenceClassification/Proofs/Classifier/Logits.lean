import SequenceClassification.Proofs.Classifier.Output
import SequenceClassification.Proofs.Decoding.Naming

/-!
What the forward pass of a classifier comes to. Main statement: a module with the layout of an
architecture gives rows of no more logits than the architecture has labels, and no failure of the forward
pass is one of the pipeline's own.
-/
namespace SequenceClassification.Classifier

theorem rowAt_yields (table : Matrix) (i : Int) :
    Yields (rowAt table i) (fun _ => True) (·.isOwn = false) := by
  unfold rowAt
  split
  · trivial
  · rfl

theorem rowsAt_yields (table : Matrix) (rows : List (List Int)) :
    Yields (rowsAt table rows) (fun _ => True) (·.isOwn = false) := by
  have hrow : ∀ row ∈ rows, Yields (row.mapM (rowAt table)) (fun _ => True) (·.isOwn = false) :=
    fun row _ => (Yields.mapM fun i _ => rowAt_yields table i).mono (fun _ _ => trivial) fun _ h => h
  exact (Yields.mapM hrow).mono (fun _ _ => trivial) fun _ h => h

theorem wordsOf_yields (table : Matrix) (tokens : Option (List (List Int)))
    (vectors : Option (List (List Vector))) :
    Yields (wordsOf table tokens vectors) (fun _ => True) (·.isOwn = false) := by
  unfold wordsOf
  split
  · rfl
  · rfl
  · exact rowsAt_yields table _
  · trivial

theorem defaultPositions_yields (a : Architecture) (tokens : Option (List (List Int)))
    (count length : Nat) :
    Yields (defaultPositions a tokens count length) (fun _ => True) (·.isOwn = false) := by
  unfold defaultPositions
  dsimp only
  split
  · trivial
  · trivial
  · trivial
  · trivial
  · split
    · rfl
    · trivial

theorem checkClosing_yields (a : Architecture) (tokens : List (List Int)) :
    Yields (checkClosing a tokens) (fun _ => True) (·.isOwn = false) := by
  unfold checkClosing
  split
  · trivial
  · split
    · rfl
    · split
      · rfl
      · trivial

section
variable (a : Architecture) (m : Weights.Module)

theorem threefoldEmbeddings_yields (lead : String) (numbers : Input → Option (List (List Int)))
    (vectors : Option (List (List Vector))) :
    Yields (threefoldEmbeddings a m lead numbers vectors) (fun _ => True) (·.isOwn = false) := by
  unfold threefoldEmbeddings
  dsimp only
  split
  · rfl
  · refine (wordsOf_yields _ _ _).bind fun words _ => ?_
    refine (rowsAt_yields _ _).bind fun types _ => ?_
    split
    · exact (rowsAt_yields _ _).bind fun _ _ => trivial
    · refine (defaultPositions_yields a _ _ _).bind fun positions _ => ?_
      exact (rowsAt_yields _ _).bind fun _ _ => trivial

theorem twofoldEmbeddings_yields (tokens : Option (List (List Int)))
    (vectors : Option (List (List Vector))) :
    Yields (twofoldEmbeddings a m tokens vectors) (fun _ => True) (·.isOwn = false) := by
  unfold twofoldEmbeddings
  dsimp only
  refine (wordsOf_yields _ _ _).bind fun words _ => ?_
  refine (defaultPositions_yields a _ _ _).bind fun positions _ => ?_
  exact (rowsAt_yields _ _).bind fun _ _ => trivial

theorem halfEmbeddings_yields (lead : String) (tokens : List (List Int)) :
    Yields (halfEmbeddings a m lead tokens) (fun _ => True) (·.isOwn = false) := by
  unfold halfEmbeddings
  dsimp only
  refine (rowsAt_yields _ _).bind fun words _ => ?_
  exact (rowsAt_yields _ _).bind fun _ _ => trivial

variable {a m}

theorem narrow_firstLogits (hm : m.layout = a.layout) (mask : Option (List (List Int)))
    (sequences : List (List Vector)) : Narrow a.labels (firstLogits a m mask sequences) := by
  intro row hrow
  obtain ⟨⟨xs, i⟩, -, rfl⟩ := List.mem_map.1 hrow
  rw [List.length_map]
  exact length_headOf_apply_le hm _

theorem halvesLogits_yields (hm : m.layout = a.layout) (tokens : List (List Int))
    (mask : Option (List (List Int))) :
    Yields (halvesLogits a m tokens mask) (Narrow a.labels) (·.isOwn = false) := by
  unfold halvesLogits
  refine (halfEmbeddings_yields a m _ _).bind fun encoded _ => ?_
  refine (halfEmbeddings_yields a m _ _).bind fun decoded _ => ?_
  refine (checkClosing_yields a tokens).bind fun _ _ row hrow => ?_
  obtain ⟨⟨⟨tokens, xs, ys⟩, i⟩, -, rfl⟩ := List.mem_map.1 hrow
  rw [List.length_map]
  exact length_headOf_apply_le hm _

/-- The logits of a classifier are as narrow as its labels, and it fails with no failure of the
pipeline's own. -/
theorem logits_yields (hm : m.layout = a.layout) (inputs : Handed InputValue) :
    Yields (logits a m inputs) (Narrow a.labels) (·.isOwn = false) := by
  unfold logits
  dsimp only
  split
  · exact halvesLogits_yields hm _ _
  · exact (twofoldEmbeddings_yields a m _ _).bind fun _ _ => narrow_firstLogits hm _ _
  · exact (threefoldEmbeddings_yields a m _ _ _).bind fun _ _ => narrow_firstLogits hm _ _
  · exact (threefoldEmbeddings_yields a m _ _ _).bind fun _ _ => narrow_firstLogits hm _ _
  · exact (threefoldEmbeddings_yields a m _ _ _).bind fun _ _ => narrow_firstLogits hm _ _
  · exact (threefoldEmbeddings_yields a m _ _ _).bind fun _ _ => narrow_firstLogits hm _ _

end

end SequenceClassification.Classifier
