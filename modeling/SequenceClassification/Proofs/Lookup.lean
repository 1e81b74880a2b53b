import Mathlib.Data.List.Induction
import Mathlib.Data.List.Nodup
import Mathlib.Data.List.Perm.Basic
import SequenceClassification.Entries

/-!
Look-up in entries. What stands first under a key is found, and of entries with distinct keys nothing
else can be found. So look-up does not see the order of distinct keys. Entries that are written one after
the other have distinct keys, and of those of one key the last counts.
-/
namespace SequenceClassification.Entries

variable {κ α : Type} [DecidableEq κ]

theorem get?_eq_none_iff (k : κ) (es : Entries κ α) : es.get? k = none ↔ k ∉ es.keys := by
  rw [← get?_isSome_iff]
  cases es.get? k <;> simp

theorem has_iff (k : κ) (es : Entries κ α) : has k es = true ↔ k ∈ es.keys := get?_isSome_iff k es

theorem has_iff_exists (k : κ) (es : Entries κ α) : has k es = true ↔ ∃ v, es.get? k = some v := by
  simp [has, Option.isSome_iff_exists]

/-- What is found is an entry. -/
theorem mem_of_get? {k : κ} {v : α} {es : Entries κ α} (h : es.get? k = some v) : (k, v) ∈ es := by
  induction es with
  | nil => simp [get?] at h
  | cons e es ih =>
    obtain ⟨j, w⟩ := e
    by_cases hj : j = k
    · simp only [get?, hj, if_true, Option.some.injEq] at h
      simp [hj, h]
    · simp only [get?, hj, if_false] at h
      exact List.mem_cons_of_mem _ (ih h)

theorem get?_append (k : κ) (es fs : Entries κ α) :
    get? k (es ++ fs) = (get? k es).or (get? k fs) := by
  induction es with
  | nil => rfl
  | cons e es ih =>
    obtain ⟨j, v⟩ := e
    by_cases hj : j = k
    · simp [get?, hj]
    · simp [get?, hj, ih]

/-- Entries that are picked out by their keys are found under those keys. -/
theorem get?_filter_of_key {q : κ → Bool} {k : κ} (h : q k = true) (es : Entries κ α) :
    get? k (es.filter fun e => q e.1) = get? k es := by
  induction es with
  | nil => rfl
  | cons e es ih =>
    obtain ⟨j, v⟩ := e
    by_cases hj : j = k
    · subst hj
      simp [get?, h]
    · by_cases hq : q j = true <;> simp [get?, hj, hq, ih]

/-- Look-up sees the entries of its key alone. -/
theorem get?_filter (k : κ) (es : Entries κ α) :
    get? k (es.filter fun e => e.1 = k) = get? k es :=
  get?_filter_of_key (q := fun j => j = k) (decide_eq_true rfl) es

/-- Among distinct keys every entry is found. -/
theorem get?_of_mem {k : κ} {v : α} {es : Entries κ α} (hn : es.keys.Nodup) (h : (k, v) ∈ es) :
    es.get? k = some v := by
  induction es with
  | nil => cases h
  | cons e es ih =>
    obtain ⟨j, w⟩ := e
    simp only [keys, List.map_cons, List.nodup_cons] at hn
    rcases List.mem_cons.1 h with heq | hmem
    · obtain ⟨rfl, rfl⟩ := Prod.mk.inj heq
      simp [get?]
    · have hk : k ∈ keys es := List.mem_map.2 ⟨(k, v), hmem, rfl⟩
      have hj : j ≠ k := fun hjk => hn.1 (hjk ▸ hk)
      simpa [get?, hj] using ih hn.2 hmem

/-- Look-up does not see the order of distinct keys. -/
theorem get?_perm {es fs : Entries κ α} (hn : es.keys.Nodup) (h : es.Perm fs) (k : κ) :
    es.get? k = fs.get? k := by
  have hn' : fs.keys.Nodup := (h.map Prod.fst).nodup_iff.1 hn
  cases hf : fs.get? k with
  | some v => exact get?_of_mem hn (h.mem_iff.2 (mem_of_get? hf))
  | none =>
    rw [get?_eq_none_iff] at hf ⊢
    exact fun hk => hf ((h.map Prod.fst).mem_iff.1 hk)

/-- Where values are read off the keys, a key that is present has its own. -/
theorem get?_map_of_mem {ι : Type} (key : ι → κ) (f : κ → α) {xs : List ι} {x : ι} (h : x ∈ xs) :
    get? (key x) (xs.map fun y => (key y, f (key y))) = some (f (key x)) := by
  induction xs with
  | nil => cases h
  | cons y ys ih =>
    by_cases hy : key y = key x
    · simp [get?, hy]
    · have hmem : x ∈ ys := (List.mem_cons.1 h).resolve_left fun hxy => hy (by rw [hxy])
      simpa [get?, hy] using ih hmem

theorem nodup_keys_put {es : Entries κ α} (k : κ) (v : α) (hn : es.keys.Nodup) :
    (put k v es).keys.Nodup := by
  by_cases h : k ∈ es.keys
  · rwa [keys_put_of_mem v h]
  · rw [keys_put_of_not_mem v h]
    exact List.nodup_append.2 ⟨hn, List.nodup_singleton k, by
      intro a ha b hb hab
      exact h (List.mem_singleton.1 hb ▸ hab ▸ ha)⟩

/-- The last pair is written last. -/
theorem ofPairs_concat (pairs : List (κ × α)) (k : κ) (v : α) :
    ofPairs (pairs ++ [(k, v)]) = put k v (ofPairs pairs) := by
  rw [ofPairs, List.foldl_append]
  rfl

/-- Entries written one after the other have distinct keys. -/
theorem nodup_keys_ofPairs (pairs : List (κ × α)) : (ofPairs pairs).keys.Nodup := by
  induction pairs using List.reverseRecOn with
  | nil => exact List.nodup_nil
  | append_singleton pairs p ih =>
    rw [ofPairs_concat]
    exact nodup_keys_put p.1 p.2 ih

/-- Of pairs written one after the other, the last one of a key counts. -/
theorem get?_ofPairs (pairs : List (κ × α)) (k : κ) : get? k (ofPairs pairs) = get? k pairs.reverse := by
  induction pairs using List.reverseRecOn with
  | nil => rfl
  | append_singleton pairs p ih =>
    obtain ⟨j, v⟩ := p
    rw [ofPairs_concat, List.reverse_concat]
    by_cases hj : j = k
    · rw [hj, get?_put_self, get?, if_pos rfl]
    · rw [get?_put_of_ne (Ne.symm hj), get?, if_neg hj, ih]

theorem get?_reverse {es : Entries κ α} (hn : es.keys.Nodup) (k : κ) :
    get? k (List.reverse es) = get? k es :=
  (get?_perm hn (List.reverse_perm es).symm k).symm

/-- Distinct keys that are written after others count before them. -/
theorem get?_ofPairs_append (xs : List (κ × α)) {ys : Entries κ α} (hn : ys.keys.Nodup) (k : κ) :
    get? k (ofPairs (xs ++ ys)) = (get? k ys).or (get? k (ofPairs xs)) := by
  rw [get?_ofPairs, get?_ofPairs, List.reverse_append, get?_append, get?_reverse hn]

/-- Other keys that are written after it leave a key alone. -/
theorem get?_ofPairs_append_of_not_mem (xs : List (κ × α)) {ys : Entries κ α} {k : κ} (h : k ∉ ys.keys) :
    get? k (ofPairs (xs ++ ys)) = get? k (ofPairs xs) := by
  have hnone : get? k ys.reverse = none := by
    rw [get?_eq_none_iff, keys, List.map_reverse, List.mem_reverse]
    exact h
  rw [get?_ofPairs, get?_ofPairs, List.reverse_append, get?_append, hnone, Option.none_or]

omit [DecidableEq κ] in
theorem nodup_keys_filter {es : Entries κ α} (hn : es.keys.Nodup) (q : κ × α → Bool) :
    (keys (es.filter q)).Nodup :=
  hn.sublist ((List.filter_sublist (p := q) (l := es)).map Prod.fst)

end SequenceClassification.Entries
