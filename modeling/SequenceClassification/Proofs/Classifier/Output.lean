import SequenceClassification.Classifier.Network
import SequenceClassification.Proofs.Lookup

/-!
The output of a head. The tensors before it lie under the lead of the family or under the dense map of the
head, so no other tensor has the name of its weight, and look-up by name finds a matrix with a row for
each class. Main statement: a head of a module with the layout of an architecture gives no more scores
than the architecture has labels.
-/
namespace SequenceClassification.Classifier

def Starts (lead name : String) : Prop := lead.toList <+: name.toList

instance (lead name : String) : Decidable (Starts lead name) := by
  unfold Starts
  infer_instance

theorem Starts.append {lead name : String} (h : Starts lead name) (rest : String) :
    Starts lead (name ++ rest) := by
  unfold Starts
  rw [String.toList_append]
  exact h.trans (List.prefix_append _ _)

namespace Tensors

/-- Every tensor has a name that begins with the lead. -/
def Under (lead : String) (ts : Tensors) : Prop := ∀ t ∈ ts, Starts lead t.1

section
variable {lead name : String}

theorem Under.append {ts us : Tensors} (ht : Under lead ts) (hu : Under lead us) :
    Under lead (ts ++ us) := by
  intro t h
  rcases List.mem_append.1 h with h | h
  · exact ht t h
  · exact hu t h

theorem under_embedding (h : Starts lead name) (count size : Nat) :
    Under lead (embedding name count size) := by
  intro t ht
  rw [List.mem_singleton.1 ht]
  exact h.append _

theorem under_affine (h : Starts lead name) (outputs inputs : Nat) :
    Under lead (affine name outputs inputs) := by
  intro t ht
  simp only [affine, List.mem_cons, List.not_mem_nil, or_false] at ht
  rcases ht with rfl | rfl
  · exact h.append _
  · exact h.append _

theorem under_norm (h : Starts lead name) (size : Nat) : Under lead (norm name size) := by
  intro t ht
  simp only [norm, List.mem_cons, List.not_mem_nil, or_false] at ht
  rcases ht with rfl | rfl
  · exact h.append _
  · exact h.append _

theorem under_flatMap {α : Type} {xs : List α} {f : α → Tensors} (h : ∀ x ∈ xs, Under lead (f x)) :
    Under lead (xs.flatMap f) := by
  intro t ht
  obtain ⟨x, hx, htx⟩ := List.mem_flatMap.1 ht
  exact h x hx t htx

theorem under_squares {names : List String} (h : ∀ n ∈ names, Starts lead n) (size : Nat) :
    Under lead (squares names size) :=
  under_flatMap fun n hn => under_affine (h n hn) size size

/-- Squares whose names are made by putting something behind a common front. -/
theorem under_squares_map (h : Starts lead name) (names : List String) (size : Nat) :
    Under lead (squares (names.map (name ++ ·)) size) := by
  refine under_squares (fun n hn => ?_) size
  obtain ⟨rest, -, rfl⟩ := List.mem_map.1 hn
  exact h.append rest

theorem under_numbered (h : Starts lead name) (count : Nat) {each : String → Tensors}
    (heach : ∀ part, Starts lead part → Under lead (each part)) :
    Under lead (numbered name count each) :=
  under_flatMap fun _ _ => heach _ ((h.append _).append _)

theorem under_threefold (h : Starts lead name) (a : Architecture) : Under lead (threefold name a) :=
  (((under_embedding (h.append _) _ _).append (under_embedding (h.append _) _ _)).append
    (under_embedding (h.append _) _ _)).append (under_norm (h.append _) _)

theorem under_encoder (h : Starts lead name) (a : Architecture) : Under lead (encoder name a) := by
  refine (under_threefold (h.append _) a).append (under_numbered (h.append _) _ fun layer hl => ?_)
  exact ((((under_squares_map (hl.append _) _ _).append (under_norm ((hl.append _)) _)).append
    (under_affine (hl.append _) _ _)).append (under_affine (hl.append _) _ _)).append
    (under_norm (hl.append _) _)

theorem under_half (h : Starts lead name) (a : Architecture) (s : Stack) (attentions : List String) :
    Under lead (half name a s attentions) := by
  refine ((under_embedding (h.append _) _ _).append
    (under_numbered (h.append _) _ fun layer hl => ?_)).append (under_norm (h.append _) _)
  refine (((under_flatMap fun attention _ => ?_).append (under_affine (hl.append _) _ _)).append
    (under_affine (hl.append _) _ _)).append (under_norm (hl.append _) _)
  exact (under_squares_map (hl.append _) _ _).append (under_norm ((hl.append _).append _) _)

end

end Tensors

def outputName : Family → String
  | .bart => "classification_head.out_proj"
  | .roberta | .xlmRoberta => "classifier.out_proj"
  | _ => "classifier"

theorem output_headOf (a : Architecture) (m : Weights.Module) :
    (headOf a m).output = Parameters.affine m (outputName a.family) := by
  unfold headOf
  cases a.family <;> rfl

theorem sharedName_outputName (family : Family) :
    sharedName (outputName family ++ ".weight") = outputName family ++ ".weight" := by
  cases family <;> rfl

theorem bias_outputName_ne (family : Family) :
    outputName family ++ ".bias" ≠ outputName family ++ ".weight" := by
  cases family <;> decide

namespace Tensors

theorem Under.ne {lead name : String} {ts : Tensors} (h : Under lead ts) (hname : ¬ Starts lead name) :
    ∀ t ∈ ts, t.1 ≠ name := by
  rintro t ht rfl
  exact hname (h t ht)

theorem affine_ne {name other : String} (hweight : name ++ ".weight" ≠ other)
    (hbias : name ++ ".bias" ≠ other) (outputs inputs : Nat) :
    ∀ t ∈ affine name outputs inputs, t.1 ≠ other := by
  intro t ht
  simp only [affine, List.mem_cons, List.not_mem_nil, or_false] at ht
  rcases ht with rfl | rfl
  · exact hweight
  · exact hbias

theorem append_ne {ts us : Tensors} {name : String} (ht : ∀ t ∈ ts, t.1 ≠ name)
    (hu : ∀ t ∈ us, t.1 ≠ name) : ∀ t ∈ ts ++ us, t.1 ≠ name := by
  intro t h
  rcases List.mem_append.1 h with h | h
  · exact ht t h
  · exact hu t h

/-- The tensors of a classifier end with those of the output, whose weight has a name of its own. -/
theorem ofArchitecture_eq (a : Architecture) :
    ∃ body, ofArchitecture a = body ++ affine (outputName a.family) a.labels a.hidden ∧
      ∀ t ∈ body, t.1 ≠ outputName a.family ++ ".weight" := by
  -- by lead where a part lies under one; the dense map of the head shares its lead with the output
  have hencoder : ∀ lead : String, Starts lead lead := fun lead => List.prefix_refl _
  cases hfamily : a.family with
  | distilBert =>
    simp only [ofArchitecture, hfamily]
    refine ⟨_, rfl, append_ne (Under.ne (show Under "distilbert." _ from ?_) (by decide))
      (affine_ne (by decide) (by decide) _ _)⟩
    refine (((under_embedding (by decide) _ _).append (under_embedding (by decide) _ _)).append
      (under_norm (by decide) _)).append (under_numbered (by decide) _ fun layer hl => ?_)
    exact ((((under_squares_map (hl.append _) _ _).append (under_norm (hl.append _) _)).append
      (under_affine (hl.append _) _ _)).append (under_affine (hl.append _) _ _)).append
      (under_norm (hl.append _) _)
  | albert =>
    simp only [ofArchitecture, hfamily]
    refine ⟨_, rfl, Under.ne (show Under "albert." _ from ?_) (by decide)⟩
    refine (((under_threefold (by decide) a).append (under_affine (by decide) _ _)).append
      (under_numbered (by decide) _ fun group hg => ?_)).append (under_affine (by decide) _ _)
    refine under_numbered (hg.append _) _ fun layer hl => ?_
    exact ((((under_norm (hl.append _) _).append (under_squares_map (hl.append _) _ _)).append
      (under_norm (hl.append _) _)).append (under_affine (hl.append _) _ _)).append
      (under_affine (hl.append _) _ _)
  | bart =>
    simp only [ofArchitecture, hfamily]
    refine ⟨_, rfl, append_ne (Under.ne (show Under "model." _ from ?_) (by decide))
      (affine_ne (by decide) (by decide) _ _)⟩
    exact ((((under_embedding (by decide) _ _).append (under_embedding (by decide) _ _)).append
      (under_half (by decide) _ _ _)).append (under_embedding (by decide) _ _)).append
      (under_half (by decide) _ _ _)
  | roberta =>
    simp only [ofArchitecture, hfamily]
    exact ⟨_, rfl, append_ne ((under_encoder (hencoder _) a).ne (by decide))
      (affine_ne (by decide) (by decide) _ _)⟩
  | xlmRoberta =>
    simp only [ofArchitecture, hfamily]
    exact ⟨_, rfl, append_ne ((under_encoder (hencoder _) a).ne (by decide))
      (affine_ne (by decide) (by decide) _ _)⟩
  | _ =>
    simp only [ofArchitecture, hfamily]
    exact ⟨_, rfl, append_ne ((under_encoder (hencoder _) a).ne (by decide))
      (affine_ne (by decide) (by decide) _ _)⟩

end Tensors

/-- A slot has the shape that the tensors of its name agree on. -/
theorem shape_layoutOf (className : String) {ts : Tensors} {t : String × List Nat} (ht : t ∈ ts)
    (hown : sharedName t.1 = t.1) (hagree : ∀ u ∈ ts, u.1 = t.1 → u.2 = t.2) :
    ((layoutOf className ts).slot
      ((Entries.get? t.1 (layoutOf className ts).names).getD 0)).shape = t.2 := by
  set owned := ts.filter fun u => sharedName u.1 == u.1 with howned
  set i := owned.findIdx fun o => o.1 == t.1 with hi
  have hmem : t ∈ owned := List.mem_filter.2 ⟨ht, by simp [hown]⟩
  have hlt : i < owned.length := List.findIdx_lt_length_of_exists ⟨t, hmem, by simp⟩
  have hname : owned[i].1 = t.1 := by
    simpa using List.findIdx_getElem (p := fun o : String × List Nat => o.1 == t.1) (w := hlt)
  have hget : Entries.get? t.1 (layoutOf className ts).names = some i := by
    have hfound := Entries.get?_map_of_mem Prod.fst
      (fun n => owned.findIdx fun o => o.1 == sharedName n) ht
    rwa [hown] at hfound
  have hslot : (layoutOf className ts).slot i = ⟨owned[i].2, true⟩ := by
    simp [Weights.Layout.slot, layoutOf, ← howned, hlt]
  rw [hget, Option.getD_some, hslot]
  exact hagree _ (List.mem_filter.1 (List.getElem_mem hlt)).1 hname

theorem mem_ofArchitecture_output (a : Architecture) :
    (outputName a.family ++ ".weight", [a.labels, a.hidden]) ∈ Tensors.ofArchitecture a ∧
      ∀ u ∈ Tensors.ofArchitecture a, u.1 = outputName a.family ++ ".weight" →
        u.2 = [a.labels, a.hidden] := by
  obtain ⟨body, heq, hbody⟩ := Tensors.ofArchitecture_eq a
  rw [heq]
  refine ⟨by simp [Tensors.affine], fun u hu hname => ?_⟩
  rcases List.mem_append.1 hu with hu | hu
  · exact absurd hname (hbody u hu)
  · simp only [Tensors.affine, List.mem_cons, List.not_mem_nil, or_false] at hu
    rcases hu with rfl | rfl
    · rfl
    · exact absurd hname (bias_outputName_ne a.family)

section
variable {a : Architecture} {m : Weights.Module}

theorem length_matrix {name : String} {rows width : Nat}
    (h : (m.layout.slot (Parameters.slotOf m name)).shape = [rows, width]) :
    (Parameters.matrix m name).length = rows := by
  simp [Parameters.matrix, h]

/-- The weight of the output has a row for each label. -/
theorem length_output_weight (hm : m.layout = a.layout) :
    (headOf a m).output.weight.length = a.labels := by
  obtain ⟨hmem, hagree⟩ := mem_ofArchitecture_output a
  rw [output_headOf]
  have hshape := shape_layoutOf (className a.family) hmem (sharedName_outputName a.family) hagree
  exact length_matrix (by rwa [Parameters.slotOf, hm])

/-- A head gives no more scores than there are labels. -/
theorem length_headOf_apply_le (hm : m.layout = a.layout) (x : Vector) :
    ((headOf a m).apply x).length ≤ a.labels := by
  rw [← length_output_weight hm]
  simp only [Head.apply, Affine.apply, plus, List.length_zipWith, List.length_map]
  exact Nat.min_le_left _ _

end

end SequenceClassification.Classifier
