import Mathlib.Data.List.Forall2

/-!
What computations that may fail come to. A computation keeps to a condition on its values and one on its
failures; both are carried from its steps to the whole, step after step and along a list. Along a list the
values are those of the steps in their order, and the failure is that of the first step that fails.
-/
namespace SequenceClassification

/-- The computation gives no value without `Q` and fails with no failure without `P`. -/
def Yields {ε α : Type} (x : Except ε α) (Q : α → Prop) (P : ε → Prop) : Prop :=
  match x with
  | .ok a => Q a
  | .error e => P e

theorem ok_bind {ε α β : Type} (x : α) (f : α → Except ε β) : (Except.ok x >>= f) = f x := rfl

theorem bind_eq_ok {ε α β : Type} {x : Except ε α} {f : α → Except ε β} {b : β}
    (h : (x >>= f) = .ok b) : ∃ a, x = .ok a ∧ f a = .ok b := by
  cases x with
  | error e => cases h
  | ok a => exact ⟨a, rfl, h⟩

theorem map_eq_ok {ε α β : Type} {x : Except ε α} {f : α → β} {b : β} (h : x.map f = .ok b) :
    ∃ a, x = .ok a ∧ f a = b := by
  cases x with
  | error e => cases h
  | ok a => exact ⟨a, rfl, Except.ok.inj h⟩

theorem mapError_eq_ok {ε ε' α : Type} {x : Except ε α} {f : ε → ε'} {a : α}
    (h : x.mapError f = .ok a) : x = .ok a := by
  cases x with
  | error e => cases h
  | ok b => rw [Except.ok.inj h]

/-- Computations that differ in their values alone fail alike. -/
theorem eq_error_iff_of_map_eq {ε α β : Type} {x : Except ε α} {y : Except ε β}
    (h : x.map (fun _ => ()) = y.map fun _ => ()) (e : ε) : x = .error e ↔ y = .error e := by
  cases x <;> cases y <;> simp_all [Except.map]

theorem exists_eq_ok_iff_of_map_eq {ε α β : Type} {x : Except ε α} {y : Except ε β}
    (h : x.map (fun _ => ()) = y.map fun _ => ()) : (∃ a, x = .ok a) ↔ ∃ b, y = .ok b := by
  cases x <;> cases y <;> simp_all [Except.map]

theorem toOption_map_eq_some {ε α β : Type} {x : Except ε α} {f : α → β} {b : β}
    (h : x.toOption.map f = some b) : ∃ a, x = .ok a ∧ f a = b := by
  cases x with
  | error e => cases h
  | ok a => exact ⟨a, rfl, Option.some.inj h⟩

namespace Yields

variable {ε ε' α β : Type} {Q : α → Prop} {R : β → Prop} {P : ε → Prop}

theorem of_ok {x : Except ε α} {a : α} (h : Yields x Q P) (hx : x = .ok a) : Q a := by
  rw [hx] at h
  exact h

theorem of_error {x : Except ε α} {e : ε} (h : Yields x Q P) (hx : x = .error e) : P e := by
  rw [hx] at h
  exact h

theorem mono {Q' : α → Prop} {P' : ε → Prop} {x : Except ε α} (h : Yields x Q P)
    (hQ : ∀ a, Q a → Q' a) (hP : ∀ e, P e → P' e) : Yields x Q' P' := by
  cases x with
  | ok a => exact hQ a h
  | error e => exact hP e h

/-- The value that a computation gives is the one that it gives. -/
theorem giving {x : Except ε α} (h : Yields x Q P) : Yields x (x = .ok ·) P := by
  cases x with
  | ok a => rfl
  | error e => exact h

theorem mono_right {P' : ε → Prop} {x : Except ε α} (h : Yields x Q P) (hP : ∀ e, P e → P' e) :
    Yields x Q P' := h.mono (fun _ hq => hq) hP

theorem or_left {P' : ε → Prop} {x : Except ε α} (h : Yields x Q P) :
    Yields x Q (fun e => P e ∨ P' e) := h.mono_right fun _ he => .inl he

theorem bind {x : Except ε α} {f : α → Except ε β} (h : Yields x Q P)
    (hf : ∀ a, Q a → Yields (f a) R P) : Yields (x >>= f) R P := by
  cases x with
  | ok a => exact hf a h
  | error e => exact h

/-- A check that throws before the rest. -/
theorem guard {c : Prop} [Decidable c] {e : ε} {f : α → Except ε β} {x : Except ε β} (he : P e)
    (hx : Yields x R P) : Yields (if c then throw e >>= f else x) R P := by
  split
  · exact he
  · exact hx

theorem map {x : Except ε α} {f : α → β} (h : Yields x Q P) (hf : ∀ a, Q a → R (f a)) :
    Yields (x.map f) R P := by
  cases x with
  | ok a => exact hf a h
  | error e => exact h

theorem mapError {x : Except ε α} {f : ε → ε'} {P' : ε' → Prop} (h : Yields x Q P)
    (hf : ∀ e, P e → P' (f e)) : Yields (x.mapError f) Q P' := by
  cases x with
  | ok a => exact h
  | error e => exact hf e h

/-- A step before the rest of a list, each of which may fail. -/
theorem cons {x : Except ε α} {xs : Except ε (List α)} (hx : Yields x Q P)
    (hxs : Yields xs (fun as => ∀ a ∈ as, Q a) P) :
    Yields (x.bind fun a => xs.map fun as => a :: as) (fun as => ∀ a ∈ as, Q a) P := by
  cases x with
  | error e => exact hx
  | ok a =>
    cases xs with
    | error e => exact hxs
    | ok as =>
      intro b hb
      rcases List.mem_cons.1 hb with rfl | hmem
      · exact hx
      · exact hxs b hmem

/-- Along a list, what each step keeps to the whole keeps to, value by value. -/
theorem mapM {f : α → Except ε β} {xs : List α} (h : ∀ a ∈ xs, Yields (f a) R P) :
    Yields (xs.mapM f) (fun bs => ∀ b ∈ bs, R b) P := by
  induction xs with
  | nil =>
    intro b hb
    cases hb
  | cons a xs ih =>
    rw [List.mapM_cons]
    refine bind (h a (List.mem_cons_self ..)) fun b hb => ?_
    refine bind (ih fun a' ha' => h a' (List.mem_cons_of_mem _ ha')) fun bs hbs => ?_
    intro b' hb'
    rcases List.mem_cons.1 hb' with rfl | hmem
    · exact hb
    · exact hbs b' hmem

theorem forM {f : α → Except ε Unit} {xs : List α}
    (h : ∀ a ∈ xs, Yields (f a) (fun _ => True) P) : Yields (xs.forM f) (fun _ => True) P := by
  induction xs with
  | nil => trivial
  | cons a xs ih =>
    change Yields (f a >>= fun _ => xs.forM f) _ _
    refine bind (h a (List.mem_cons_self ..)) fun _ _ => ?_
    exact ih fun a' ha' => h a' (List.mem_cons_of_mem _ ha')

end Yields

/-- Where not all items of a list have a property there is a first one that has it not. -/
theorem exists_first_of_not_forall {α : Type} {P : α → Prop} {xs : List α} (h : ¬ ∀ x ∈ xs, P x) :
    ∃ before x after, xs = before ++ x :: after ∧ (∀ y ∈ before, P y) ∧ ¬ P x := by
  induction xs with
  | nil => exact absurd (fun x hx => absurd hx List.not_mem_nil) h
  | cons x xs ih =>
    by_cases hx : P x
    · have hrest : ¬ ∀ y ∈ xs, P y := fun hall => h (List.forall_mem_cons.2 ⟨hx, hall⟩)
      obtain ⟨before, z, after, rfl, hbefore, hz⟩ := ih hrest
      exact ⟨x :: before, z, after, rfl, List.forall_mem_cons.2 ⟨hx, hbefore⟩, hz⟩
    · exact ⟨[], x, xs, rfl, fun y hy => absurd hy List.not_mem_nil, hx⟩

section
variable {ε ε' α β γ : Type} {f : α → Except ε β}

theorem mapM_cons_eq (f : α → Except ε β) (x : α) (xs : List α) :
    (x :: xs).mapM f = (f x).bind fun b => (xs.mapM f).map fun bs => b :: bs := by
  rw [List.mapM_cons]
  cases f x with
  | error e => rfl
  | ok b => cases xs.mapM f <;> rfl

theorem mapM_append_eq (f : α → Except ε β) (xs ys : List α) :
    (xs ++ ys).mapM f = (xs.mapM f).bind fun as => (ys.mapM f).map fun bs => as ++ bs := by
  rw [List.mapM_append]
  cases xs.mapM f with
  | error e => rfl
  | ok as => cases ys.mapM f <;> rfl

theorem mapM_mapError (f : α → Except ε β) (g : ε → ε') (xs : List α) :
    (xs.mapM f).mapError g = xs.mapM fun x => (f x).mapError g := by
  induction xs with
  | nil => rfl
  | cons x xs ih =>
    rw [mapM_cons_eq, mapM_cons_eq, ← ih]
    cases f x with
    | error e => rfl
    | ok b => cases xs.mapM f <;> rfl

theorem mapM_eq_ok_iff {xs : List α} {bs : List β} :
    xs.mapM f = .ok bs ↔ List.Forall₂ (fun x b => f x = .ok b) xs bs := by
  induction xs generalizing bs with
  | nil =>
    rw [List.forall₂_nil_left_iff]
    exact ⟨fun h => (Except.ok.inj h).symm, fun h => congrArg Except.ok h.symm⟩
  | cons x xs ih =>
    rw [mapM_cons_eq, List.forall₂_cons_left_iff]
    constructor
    · intro h
      obtain ⟨b, hb, h⟩ := bind_eq_ok h
      obtain ⟨rest, hrest, rfl⟩ := map_eq_ok h
      exact ⟨b, rest, hb, ih.1 hrest, rfl⟩
    · rintro ⟨b, rest, hb, hrest, rfl⟩
      rw [hb, ih.2 hrest]
      rfl

/-- The values are those of the steps. -/
theorem mem_of_mapM_eq_ok {xs : List α} {bs : List β} (h : xs.mapM f = .ok bs) (b : β) :
    b ∈ bs ↔ ∃ x ∈ xs, f x = .ok b := by
  rw [mapM_eq_ok_iff] at h
  induction h with
  | nil => simp
  | cons hx _ ih => simp [ih, hx, eq_comm]

theorem map_of_mapM_eq_ok {xs : List α} {bs : List β} (h : xs.mapM f = .ok bs) {g : β → γ} {k : α → γ}
    (hg : ∀ x b, f x = .ok b → g b = k x) : bs.map g = xs.map k := by
  rw [mapM_eq_ok_iff] at h
  induction h with
  | nil => rfl
  | cons hx _ ih => rw [List.map_cons, List.map_cons, hg _ _ hx, ih]

/-- Each value is that of the step at its place. -/
theorem getElem?_of_mapM_eq_ok {xs : List α} {bs : List β} (h : xs.mapM f = .ok bs) {i : Nat} {b : β}
    (hb : bs[i]? = some b) : ∃ x, xs[i]? = some x ∧ f x = .ok b := by
  rw [mapM_eq_ok_iff] at h
  induction h generalizing i with
  | nil => cases hb
  | cons hx _ ih =>
    cases i with
    | zero => cases hb; exact ⟨_, rfl, hx⟩
    | succ i => simpa using ih (by simpa using hb)

/-- Where the places go along, each value comes from what stands at its place. -/
theorem getElem?_of_mapM_zipIdx {xs : List α} {f : α × Nat → Except ε β} {bs : List β}
    (h : xs.zipIdx.mapM f = .ok bs) {i : Nat} {b : β} (hb : bs[i]? = some b) :
    ∃ x, xs[i]? = some x ∧ f (x, i) = .ok b := by
  obtain ⟨p, hp, hvalue⟩ := getElem?_of_mapM_eq_ok h hb
  rw [List.getElem?_zipIdx, Option.map_eq_some_iff] at hp
  obtain ⟨x, hx, rfl⟩ := hp
  rw [Nat.zero_add] at hvalue
  exact ⟨x, hx, hvalue⟩

/-- The first step that fails decides. -/
theorem mapM_of_first_error {before after : List α} {x : α} {e : ε}
    (hbefore : ∀ y ∈ before, ∃ b, f y = .ok b) (hx : f x = .error e) :
    (before ++ x :: after).mapM f = .error e := by
  induction before with
  | nil => rw [List.nil_append, mapM_cons_eq, hx]; rfl
  | cons y before ih =>
    obtain ⟨b, hb⟩ := hbefore y (List.mem_cons_self ..)
    rw [List.cons_append, mapM_cons_eq, hb, ih fun z hz => hbefore z (List.mem_cons_of_mem _ hz)]
    rfl

/-- Where some step fails there is a first one that does. -/
theorem exists_first_error {xs : List α} (h : ¬ ∀ x ∈ xs, ∃ b, f x = .ok b) :
    ∃ before x after e, xs = before ++ x :: after ∧ (∀ y ∈ before, ∃ b, f y = .ok b) ∧
      f x = .error e := by
  obtain ⟨before, x, after, hsplit, hbefore, hx⟩ := exists_first_of_not_forall h
  cases hfx : f x with
  | error e => exact ⟨before, x, after, e, hsplit, hbefore, hfx⟩
  | ok b => exact absurd ⟨b, hfx⟩ hx

theorem exists_mapM_eq_ok {xs : List α} (h : ∀ x ∈ xs, ∃ b, f x = .ok b) :
    ∃ bs, xs.mapM f = .ok bs := by
  induction xs with
  | nil => exact ⟨[], rfl⟩
  | cons x xs ih =>
    obtain ⟨b, hb⟩ := h x (List.mem_cons_self ..)
    obtain ⟨bs, hbs⟩ := ih fun y hy => h y (List.mem_cons_of_mem _ hy)
    exact ⟨b :: bs, by rw [mapM_cons_eq, hb, hbs]; rfl⟩

/-- The whole returns exactly if every step does. -/
theorem exists_mapM_eq_ok_iff {xs : List α} :
    (∃ bs, xs.mapM f = .ok bs) ↔ ∀ x ∈ xs, ∃ b, f x = .ok b := by
  constructor
  · rintro ⟨bs, hbs⟩
    by_contra h
    obtain ⟨before, x, after, e, rfl, hbefore, hx⟩ := exists_first_error h
    rw [mapM_of_first_error hbefore hx] at hbs
    cases hbs
  · exact exists_mapM_eq_ok

/-- The whole fails exactly with the failure of the first step that fails. -/
theorem mapM_eq_error_iff {xs : List α} {e : ε} :
    xs.mapM f = .error e ↔ ∃ before x after, xs = before ++ x :: after ∧
      (∀ y ∈ before, ∃ b, f y = .ok b) ∧ f x = .error e := by
  constructor
  · intro h
    have hfails : ¬ ∀ x ∈ xs, ∃ b, f x = .ok b := by
      rw [← exists_mapM_eq_ok_iff, h]
      simp
    obtain ⟨before, x, after, e', rfl, hbefore, hx⟩ := exists_first_error hfails
    rw [mapM_of_first_error hbefore hx] at h
    cases h
    exact ⟨before, x, after, rfl, hbefore, hx⟩
  · rintro ⟨before, x, after, rfl, hbefore, hx⟩
    exact mapM_of_first_error hbefore hx

end

end SequenceClassification
