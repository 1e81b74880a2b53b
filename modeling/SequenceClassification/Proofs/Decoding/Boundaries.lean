import SequenceClassification.Proofs.Decoding.Agreement

/-!
The boundaries of the threshold. A threshold of at least one makes an infinite cutoff, and so does one of at
most zero; the upper cutoff is reached by an infinite logit and by no other, the lower one by every logit
that is a number. Main statement: over a table that covers the classes, a threshold of at least one selects
the infinite logits and a threshold of at most zero selects all that are numbers.
-/
namespace SequenceClassification

namespace Score

open Float.Model (UnpackedFloat)

def isTop (x : Float32) : Bool := x.isInf && decide (0 < x)

def AtLeastOne : Json → Prop
  | .float t => 1 ≤ t
  | .int n => 1 ≤ n
  | .bool b => b = true
  | _ => False

def AtMostZero : Json → Prop
  | .float t => t ≤ 0
  | .int n => n ≤ 0
  | .bool b => b = false
  | _ => False

theorem not_one_le_zero : ¬ (1 : Float) ≤ 0 := by decide +kernel

theorem suppliedCutoff_of_atLeastOne {threshold : Json} (h : AtLeastOne threshold) :
    suppliedCutoff threshold = .ok real64.top := by
  cases threshold with
  | float t =>
    have hzero : real64.atMost t real64.zero = false :=
      decide_eq_false fun hle => not_one_le_zero (le64_trans h hle)
    have hone : real64.atMost real64.one t = true := decide_eq_true h
    rw [suppliedCutoff, logitCutoff_of_one_atMost real64 hzero hone]
  | int n =>
    have hpos : ¬ n ≤ 0 := by
      have hn : 1 ≤ n := h
      omega
    rw [suppliedCutoff, if_neg hpos]
  | bool b =>
    have hb : b = true := h
    rw [suppliedCutoff, if_pos hb]
  | null | str _ | arr _ | obj _ => exact h.elim

theorem suppliedCutoff_of_atMostZero {threshold : Json} (h : AtMostZero threshold) :
    suppliedCutoff threshold = .ok real64.bottom := by
  cases threshold with
  | float t => rw [suppliedCutoff, logitCutoff_of_atMost_zero real64 (decide_eq_true h)]
  | int n =>
    have hn : n ≤ 0 := h
    rw [suppliedCutoff, if_pos hn]
  | bool b =>
    have hb : b = false := h
    rw [suppliedCutoff, hb]
    rfl
  | null | str _ | arr _ | obj _ => exact h.elim

/-- Only infinity reaches the upper cutoff. -/
theorem top_le_widen_iff (x : Float32) : real64.top ≤ widen x ↔ isTop x = true := by
  have htop : real64.top.toModel.unpack = .infinity .positive := rfl
  have hzero : (0 : Float32).toModel.unpack = .zero .positive := rfl
  have hsign : isTop x = (x.toModel.unpack.isInf && (UnpackedFloat.zero .positive).lt x.toModel.unpack) := by
    have hpos : decide (0 < x) = (Float32.toModel 0).unpack.lt x.toModel.unpack :=
      Bool.eq_iff_iff.2 (decide_eq_true_iff.trans lt32_iff)
    rw [isTop, hpos, hzero]
    rfl
  rw [le64_iff, htop, unpack_widen, hsign]
  cases x.toModel.unpack with
  | notANumber => decide
  | infinity sign => cases sign <;> decide
  | zero sign => cases sign <;> decide
  | finite sign m e hpos => cases sign <;> exact Iff.rfl

/-- Every number reaches the lower cutoff. -/
theorem bottom_le_widen_iff (x : Float32) : real64.bottom ≤ widen x ↔ (!x.isNaN) = true := by
  have hbottom : real64.bottom.toModel.unpack = .infinity .negative := rfl
  change _ ↔ (!x.toModel.unpack.isNaN) = true
  rw [le64_iff, hbottom, unpack_widen]
  cases x.toModel.unpack with
  | notANumber => decide
  | infinity sign => cases sign <;> decide
  | zero sign => cases sign <;> decide
  | finite sign m e hpos => cases sign <;> exact Iff.rfl

end Score

namespace Facade

/-- The classes of a row whose logits have a property, in order. -/
def classesOf (p : Float32 → Bool) (row : List Float32) : List Int :=
  (row.zipIdx.filter fun cell => p cell.1).map fun cell => (cell.2 : Int)

theorem mem_classesOf_iff {p : Float32 → Bool} {row : List Float32} {c : Int} :
    c ∈ classesOf p row ↔ ∃ (k : ℕ) (x : Float32), row[k]? = some x ∧ p x = true ∧ c = k := by
  simp only [classesOf, List.mem_map, List.mem_filter, Prod.exists, List.mk_mem_zipIdx_iff_getElem?]
  constructor
  · rintro ⟨x, k, ⟨hx, hp⟩, rfl⟩
    exact ⟨k, x, hx, hp, rfl⟩
  · rintro ⟨k, x, hx, hp, rfl⟩
    exact ⟨x, k, ⟨hx, hp⟩, rfl⟩

theorem pairwise_classesOf (p : Float32 → Bool) (row : List Float32) :
    (classesOf p row).Pairwise (· < ·) := by
  rw [classesOf, List.pairwise_map]
  exact ((pairwise_zipIdx row 0).filter _).imp fun hlt => Int.ofNat_lt.2 hlt

theorem classesOf_eq_nil {p : Float32 → Bool} {row : List Float32} (h : ∀ x ∈ row, p x = false) :
    classesOf p row = [] := by
  rw [List.eq_nil_iff_forall_not_mem]
  intro c hc
  obtain ⟨k, x, hx, hp, -⟩ := mem_classesOf_iff.1 hc
  rw [h x (List.mem_of_getElem? hx)] at hp
  cases hp

theorem classesOf_eq_range {p : Float32 → Bool} {row : List Float32} (h : ∀ x ∈ row, p x = true) :
    classesOf p row = (List.range row.length).map fun k : ℕ => (k : Int) := by
  have hfilter : (row.zipIdx.filter fun cell => p cell.1) = row.zipIdx :=
    List.filter_eq_self.2 fun cell hcell => h cell.1 (List.fst_mem_of_mem_zipIdx hcell)
  rw [classesOf, hfilter, List.range_eq_range', ← List.zipIdx_map_snd, List.map_map]
  rfl

theorem eq_of_pairwise_lt {xs ys : List Int} (hxs : xs.Pairwise (· < ·)) (hys : ys.Pairwise (· < ·))
    (h : ∀ c, c ∈ xs ↔ c ∈ ys) : xs = ys := by
  have hperm : xs.Perm ys := (List.perm_ext_iff_of_nodup (hxs.imp ne_of_lt) (hys.imp ne_of_lt)).2 h
  exact hperm.eq_of_pairwise (fun a b _ _ hab hba => absurd hab hba.asymm) hxs hys

/-- The selected classes of a row are those whose logits reach the cutoff. -/
theorem ExactLabels.map_id {table : LabelTable} {logits : Logits} {cutoff : Float} {i : ℕ}
    {labels : List (Label Float)} (h : ExactLabels table logits cutoff i labels) {row : List Float32}
    (hrow : logits[i]? = some row) (hcovers : table.Covers row.length) {p : Float32 → Bool}
    (hp : ∀ x, cutoff ≤ Score.widen x ↔ p x = true) : labels.map Label.id = classesOf p row := by
  refine eq_of_pairwise_lt h.increasing (pairwise_classesOf p row) fun c => ?_
  rw [List.mem_map, mem_classesOf_iff]
  constructor
  · rintro ⟨l, hl, rfl⟩
    obtain ⟨row', k, x, hrow', hx, hreach, -, -, hid, -⟩ := (h.mem_iff l).1 hl
    obtain rfl : row = row' := Option.some.inj (hrow.symm.trans hrow')
    exact ⟨k, x, hx, (hp x).1 hreach, hid⟩
  · rintro ⟨k, x, hx, hpx, rfl⟩
    have hkey := hcovers k (List.getElem?_eq_some_iff.1 hx).1
    obtain ⟨text, htext⟩ := Option.isSome_iff_exists.1 ((Entries.get?_isSome_iff _ _).2 hkey)
    have hlabel := (h.mem_iff ⟨text, Score.sigmoid64 (Score.widen x), k, i⟩).2
      ⟨row, k, x, hrow, hx, (hp x).2 hpx, htext, rfl, rfl, rfl⟩
    exact ⟨_, hlabel, rfl⟩

section
variable {τ : Type} {m : Facade τ} {texts : List τ} {logits : Logits} {classes : ℕ}

theorem map_id_predictMulti (hforward : texts ≠ [] → m.forward texts = .ok logits)
    (hrows : logits.length = texts.length) (hwidth : ∀ row ∈ logits, row.length = classes)
    (hcovers : m.labels.Covers classes) {threshold : Json} {cutoff : Float}
    (hcutoff : Score.suppliedCutoff threshold = .ok cutoff) {p : Float32 → Bool}
    (hp : ∀ x, cutoff ≤ Score.widen x ↔ p x = true) :
    ∃ lists, m.predictMulti texts threshold = .ok lists ∧
      lists.map (List.map Label.id) = logits.map (classesOf p) := by
  obtain ⟨lists, hlists, hlength, hexact⟩ := exists_predictMulti hforward hrows hwidth hcovers hcutoff
  refine ⟨lists, hlists, List.ext_getElem (by simp [hlength, hrows]) fun i hi hi' => ?_⟩
  rw [List.length_map] at hi hi'
  have hrow := List.getElem?_eq_getElem hi'
  have hwide : m.labels.Covers logits[i].length := (hwidth _ (List.getElem_mem hi')).symm ▸ hcovers
  rw [List.getElem_map, List.getElem_map]
  exact (hexact i _ (List.getElem?_eq_getElem hi)).map_id hrow hwide hp

/-- The boundaries of the threshold hold for all logits, numbers or not. Any threshold of at least one
selects the classes whose logit is positive infinity, which is none on other logits; any threshold of at
most zero selects the classes whose logit is a number, which is every class on logits that are numbers. -/
theorem threshold_boundaries (hforward : texts ≠ [] → m.forward texts = .ok logits)
    (hrows : logits.length = texts.length) (hwidth : ∀ row ∈ logits, row.length = classes)
    (hcovers : m.labels.Covers classes) :
    (∀ threshold, Score.AtLeastOne threshold → ∃ lists, m.predictMulti texts threshold = .ok lists ∧
      lists.map (List.map Label.id) = logits.map (classesOf Score.isTop) ∧
      ((∀ row ∈ logits, ∀ x ∈ row, Score.isTop x = false) → lists = List.replicate texts.length [])) ∧
    ∀ threshold, Score.AtMostZero threshold → ∃ lists, m.predictMulti texts threshold = .ok lists ∧
      lists.map (List.map Label.id) = logits.map (classesOf fun x => !x.isNaN) ∧
      ((∀ row ∈ logits, ∀ x ∈ row, x.isNaN = false) → lists.map (List.map Label.id) =
        List.replicate texts.length ((List.range classes).map fun k : ℕ => (k : Int))) := by
  constructor
  · intro threshold hthreshold
    obtain ⟨lists, hlists, hids⟩ := map_id_predictMulti hforward hrows hwidth hcovers
      (Score.suppliedCutoff_of_atLeastOne hthreshold) Score.top_le_widen_iff
    refine ⟨lists, hlists, hids, fun hnone => ?_⟩
    have hlength : lists.length = texts.length := by
      rw [← hrows, ← List.length_map (List.map Label.id), hids, List.length_map]
    refine List.eq_replicate_iff.2 ⟨hlength, fun ls hls => ?_⟩
    have hmem : ls.map Label.id ∈ logits.map (classesOf Score.isTop) := hids ▸ List.mem_map_of_mem hls
    obtain ⟨row, hrow, hrowIds⟩ := List.mem_map.1 hmem
    rw [classesOf_eq_nil (hnone row hrow)] at hrowIds
    exact List.map_eq_nil_iff.1 hrowIds.symm
  · intro threshold hthreshold
    obtain ⟨lists, hlists, hids⟩ := map_id_predictMulti hforward hrows hwidth hcovers
      (Score.suppliedCutoff_of_atMostZero hthreshold) Score.bottom_le_widen_iff
    refine ⟨lists, hlists, hids, fun hnumbers => ?_⟩
    rw [hids]
    refine List.eq_replicate_iff.2 ⟨by rw [List.length_map, hrows], fun ids hids' => ?_⟩
    obtain ⟨row, hrow, rfl⟩ := List.mem_map.1 hids'
    rw [classesOf_eq_range fun x hx => by rw [hnumbers row hrow x hx]; rfl, hwidth row hrow]

end

/-- Logits of two texts, one of which are beyond all numbers and no number. -/
def extreme : Logits := [[1 / 0, 0.5], [0 / 0, -1 / 0]]

def extremeFacade : Facade String := ⟨[(0, .str "no"), (1, .str "yes")], fun _ => .ok extreme⟩

theorem threshold_boundaries_of_extreme :
    (∃ lists, extremeFacade.predictMulti ["loud", "broken"] (.int 2) = .ok lists ∧
      lists.map (List.map Label.id) = [[0], []]) ∧
    ∃ lists, extremeFacade.predictMulti ["loud", "broken"] (.float (-0.5)) = .ok lists ∧
      lists.map (List.map Label.id) = [[0, 1], [1]] := by
  have hforward : ["loud", "broken"] ≠ [] → extremeFacade.forward ["loud", "broken"] = .ok extreme :=
    fun _ => rfl
  have hcovers : extremeFacade.labels.Covers 2 := by
    intro i hi
    obtain rfl | rfl : i = 0 ∨ i = 1 := by omega
    all_goals decide
  have hwidth : ∀ row ∈ extreme, row.length = 2 := by decide
  obtain ⟨hone, hzero⟩ := threshold_boundaries hforward rfl hwidth hcovers
  obtain ⟨high, hhigh, hhighIds, -⟩ := hone (.int 2) (show (1 : Int) ≤ 2 by decide)
  obtain ⟨low, hlow, hlowIds, -⟩ := hzero (.float (-0.5)) (show (-0.5 : Float) ≤ 0 by decide +kernel)
  refine ⟨⟨high, hhigh, hhighIds.trans ?_⟩, low, hlow, hlowIds.trans ?_⟩
  · decide +kernel
  · decide +kernel

end Facade

end SequenceClassification
