import SequenceClassification.Proofs.Decoding.Selection
import SequenceClassification.Proofs.Decoding.Winners
import SequenceClassification.Proofs.Score.FiniteScores

/-!
Labels of finite logits. Where the logits are finite, so are the probabilities of their rows and the sigmoids
of those that reach a cutoff. Main statement: a text is given labels with a text of the table, a finite score
and the place of the text, one of them or a list for each text in the order of the texts.
-/
namespace SequenceClassification

namespace Facade

variable {τ : Type}

/-- The forward pass gives one row for each text, and all its logits are finite. -/
structure GivesFinite (m : Facade τ) : Prop where
  rows : ∀ texts logits, m.forward texts = .ok logits → logits.length = texts.length
  finite : ∀ texts logits, m.forward texts = .ok logits → ∀ row ∈ logits, ∀ x ∈ row, x.isFinite = true

/-- The label has a text of the table and a finite score, and belongs to the text at a place. -/
structure Describes (table : LabelTable) (i : ℕ) (l : Label Float) : Prop where
  text : Entries.get? l.id table = some l.text
  finite : l.score.isFinite = true
  sentence : l.sentence = i

variable {table : LabelTable} {logits : Logits} {i : ℕ}

theorem describes_of_labelOfRow {row : List Float32} (hrow : ∀ x ∈ row, x.isFinite = true)
    {l : Label Float32}
    (h : Decoding.labelOfRow Score.exceeds32 table i (Score.softmax32 row) = .ok l) :
    Describes table i ⟨l.text, Score.widen l.score, l.id, l.sentence⟩ := by
  obtain ⟨k, hbest, -, htext, hsentence⟩ := Decoding.exists_best?_of_labelOfRow h
  have hscore : l.score ∈ Score.softmax32 row := List.mem_of_getElem? (Decoding.getElem?_best? hbest)
  exact ⟨htext, Score.isFinite_widen (Score.isFinite_softmax32 hrow _ hscore), hsentence⟩

theorem describes_of_decodeSingle (hfinite : ∀ row ∈ logits, ∀ x ∈ row, x.isFinite = true)
    {labels : List (Label Float)} (h : decodeSingle table logits = .ok labels) :
    labels.length = logits.length ∧ ∀ (i : ℕ) l, labels[i]? = some l → Describes table i l := by
  obtain ⟨hlength, hplaces⟩ := labelOfRow_of_decodeSingle h
  refine ⟨hlength, fun i l hl => ?_⟩
  obtain ⟨row, narrow, hrow, hlabel, rfl⟩ := hplaces i l hl
  exact describes_of_labelOfRow (hfinite row (List.mem_of_getElem? hrow)) hlabel

/-- A logit that reaches a cutoff is a number, so its sigmoid is finite. -/
theorem ExactLabels.describes {cutoff : Float} {labels : List (Label Float)}
    (h : ExactLabels table logits cutoff i labels) : ∀ l ∈ labels, Describes table i l := by
  intro l hl
  obtain ⟨row, k, x, -, -, hreach, htext, hscore, hid, hsentence⟩ := (h.mem_iff l).1 hl
  have hnumber : (Score.widen x).isNaN = false := (Score.isNaN_of_le (Score.le64_iff.1 hreach)).2
  refine ⟨hid ▸ htext, ?_, hsentence⟩
  rw [hscore]
  exact Score.isFinite_sigmoid64 hnumber

section
variable {m : Facade τ} {texts : List τ} (hne : texts ≠ [])
include hne

theorem predict_eq_bind : m.predict texts = (m.forward texts).bind (decodeSingle m.labels) := by
  rw [predict, if_neg (by simpa using hne)]
  cases m.forward texts <;> rfl

theorem predictMulti_eq_bind (threshold : Json) : m.predictMulti texts threshold =
    (m.forward texts).bind (decodeMulti m.labels texts.length threshold) := by
  rw [predictMulti, if_neg (by simpa using hne)]
  cases m.forward texts <;> rfl

variable (hm : m.GivesFinite)
include hm

/-- Single-label classification gives each text a label of its own, with a finite score. -/
theorem describes_of_predict {labels : List (Label Float)} (h : m.predict texts = .ok labels) :
    labels.length = texts.length ∧ ∀ (i : ℕ) l, labels[i]? = some l → Describes m.labels i l := by
  rw [predict_eq_bind hne] at h
  obtain ⟨logits, hforward, hdecode⟩ := bind_eq_ok h
  obtain ⟨hlength, hlabels⟩ := describes_of_decodeSingle (hm.finite texts logits hforward) hdecode
  exact ⟨hlength.trans (hm.rows texts logits hforward), hlabels⟩

/-- Multi-label classification gives each text a list of labels of its own, with finite scores. -/
theorem describes_of_predictMulti {x : Float} {lists : List (List (Label Float))}
    (h : m.predictMulti texts (.float x) = .ok lists) :
    lists.length = texts.length ∧
      ∀ (i : ℕ) ls, lists[i]? = some ls → ∀ l ∈ ls, Describes m.labels i l := by
  have hbind := h
  rw [predictMulti_eq_bind hne] at hbind
  obtain ⟨logits, hforward, -⟩ := bind_eq_ok hbind
  have hrows := hm.rows texts logits hforward
  rw [predictMulti_of_cutoff (fun _ => hforward) hrows rfl] at h
  obtain ⟨hlength, hselects⟩ := Decoding.selects_of_multi (mapError_eq_ok h)
  rw [List.length_map] at hlength
  refine ⟨hlength.trans hrows, fun i ls hls => ?_⟩
  obtain ⟨wide, hwide, hselect⟩ := hselects i ls hls
  rw [List.getElem?_map, Option.map_eq_some_iff] at hwide
  obtain ⟨row, hrow, rfl⟩ := hwide
  exact (exactLabels_of_selects hrow hselect).describes

end

end Facade

end SequenceClassification
