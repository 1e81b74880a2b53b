import SequenceClassification.Proofs.Weights.Overwriting
import SequenceClassification.Proofs.Weights.Parameters

/-!
Whole histories of a parameter store: attachments, loads, counts and accesses in any order. A store is
empty up to the first attachment and owns that module from then on; of all later steps loads alone change
it. Main statement: what every step of every history finds, does and answers.
-/
namespace SequenceClassification.Weights.Store

inductive Action where
  | attach (m : Module)
  | load (path : String) (content : FileContent)
  | count
  | access

inductive Reply where
  | done
  | count (n : Nat)
  | module (m : Module)

def Action.attached? : Action → Option Module
  | .attach m => some m
  | _ => none

def Action.isLoad : Action → Bool
  | .load _ _ => true
  | _ => false

def perform (s : Store) : Action → Store × Except Failure Reply
  | .attach m => ((s.attach m).1, (s.attach m).2.map fun _ => .done)
  | .load path content => ((s.load path content).1, (s.load path content).2.map fun _ => .done)
  | .count => (s, s.parameterCount.map .count)
  | .access => (s, s.module.map .module)

def after (s : Store) (actions : List Action) : Store := actions.foldl (fun s a => (s.perform a).1) s

def answers (s : Store) : List Action → List (Except Failure Reply)
  | [] => []
  | a :: actions => (s.perform a).2 :: answers (s.perform a).1 actions

def nothingAttached : Failure := .runtime "No module attached to the parameter store"

def alreadyOwns : Failure := .runtime "Parameter store already owns a module"

/-- What comes of an action on a store that owns a module or none. An empty store refuses everything but
a module, whatever file is named. An owner refuses another module, changes its own by loads alone, and
counts each learned tensor of it once, with the product of its shape. -/
def Responds (device : String) : Option Module → Action → Store × Except Failure Reply → Prop
  | none, .attach m, result => result = (⟨device, some m⟩, .ok .done)
  | none, _, result => result = (⟨device, none⟩, .error nothingAttached)
  | some m, .attach _, result => result = (⟨device, some m⟩, .error alreadyOwns)
  | some m, .load path content, result => ∃ m', m'.layout = m.layout ∧
      result = (⟨device, some m'⟩, ((Store.mk device (some m)).load path content).2.map fun _ => .done)
  | some m, .count, result =>
    result = (⟨device, some m⟩, .ok (.count (∑ i ∈ m.layout.learnedSlots, (m.layout.slot i).shape.prod)))
  | some m, .access, result => result = (⟨device, some m⟩, .ok (.module m))

variable {device : String}

theorem exists_load (device : String) (m : Module) (path : String) (content : FileContent) :
    ∃ m', m'.layout = m.layout ∧ ((Store.mk device (some m)).load path content).1 = ⟨device, some m'⟩ := by
  simp only [load]
  split
  · exact ⟨m, rfl, rfl⟩
  · split
    · exact ⟨m, rfl, rfl⟩
    · exact ⟨_, Module.layout_copyFrom m _ _, rfl⟩

/-- What every action comes to on every store. -/
theorem responds_perform (held : Option Module) (a : Action) :
    Responds device held a ((Store.mk device held).perform a) := by
  cases held with
  | none => cases a <;> rfl
  | some m =>
    cases a with
    | attach other => rfl
    | load path content =>
      obtain ⟨m', hlayout, hload⟩ := exists_load device m path content
      exact ⟨m', hlayout, Prod.ext hload rfl⟩
    | count =>
      rw [Responds, ← Layout.learnedElements_eq_sum]
      rfl
    | access => rfl

def firstAttached (actions : List Action) : Option Module := actions.findSome? Action.attached?

def loadsAfterFirst (actions : List Action) : List Action :=
  (actions.dropWhile fun a => a.attached?.isNone).filter Action.isLoad

theorem perform_of_empty {a : Action} (h : a.attached? = none) :
    ((Store.mk device none).perform a).1 = ⟨device, none⟩ := by
  cases a with
  | attach m => cases h
  | _ => rfl

theorem perform_of_owner {m : Module} {a : Action} (h : a.isLoad = false) :
    ((Store.mk device (some m)).perform a).1 = ⟨device, some m⟩ := by
  cases a with
  | load path content => cases h
  | _ => rfl

/-- An owner keeps a module of the same layout, and of all actions the loads alone matter. -/
theorem after_of_owner (device : String) (m : Module) (actions : List Action) :
    (Store.mk device (some m)).after actions =
        (Store.mk device (some m)).after (actions.filter Action.isLoad) ∧
      ∃ m', m'.layout = m.layout ∧ (Store.mk device (some m)).after actions = ⟨device, some m'⟩ := by
  induction actions generalizing m with
  | nil => exact ⟨rfl, m, rfl, rfl⟩
  | cons a actions ih =>
    cases hload : a.isLoad with
    | false =>
      rw [List.filter_cons_of_neg (by simp [hload]), after, List.foldl_cons, perform_of_owner hload]
      exact ih m
    | true =>
      obtain ⟨path, content, rfl⟩ : ∃ path content, a = .load path content := by
        cases a with
        | load path content => exact ⟨path, content, rfl⟩
        | _ => cases hload
      obtain ⟨m', hlayout, hstep⟩ := exists_load device m path content
      obtain ⟨hloads, m'', hlayout', hafter⟩ := ih m'
      have hcons : ∀ rest, (Store.mk device (some m)).after (.load path content :: rest) =
          (Store.mk device (some m')).after rest := by
        intro rest
        rw [after, List.foldl_cons, perform, hstep]
        rfl
      rw [List.filter_cons_of_pos hload, hcons, hcons]
      exact ⟨hloads, m'', hlayout'.trans hlayout, hafter⟩

/-- What actions leave of an empty store: the module that was attached first, after its loads. -/
theorem after_of_empty (device : String) (actions : List Action) :
    (Store.mk device none).after actions =
        (Store.mk device (firstAttached actions)).after (loadsAfterFirst actions) ∧
      ∃ held : Option Module, held.map Module.layout = (firstAttached actions).map Module.layout ∧
        (Store.mk device none).after actions = ⟨device, held⟩ := by
  induction actions with
  | nil => exact ⟨rfl, none, rfl, rfl⟩
  | cons a actions ih =>
    cases hattached : a.attached? with
    | none =>
      have hfirst : firstAttached (a :: actions) = firstAttached actions := by
        rw [firstAttached, List.findSome?_cons, hattached]
        rfl
      have hloads : loadsAfterFirst (a :: actions) = loadsAfterFirst actions := by
        rw [loadsAfterFirst, List.dropWhile_cons, hattached]
        rfl
      rw [hfirst, hloads, after, List.foldl_cons, perform_of_empty hattached]
      exact ih
    | some m =>
      obtain rfl : a = .attach m := by
        cases a with
        | attach other => exact congrArg Action.attach (Option.some.inj hattached)
        | _ => cases hattached
      obtain ⟨hloads, m', hlayout, hafter⟩ := after_of_owner device m actions
      refine ⟨hloads, some m', congrArg some hlayout, hafter⟩

theorem after_append (s : Store) (earlier later : List Action) :
    s.after (earlier ++ later) = (s.after earlier).after later := List.foldl_append

theorem getElem?_answers (s : Store) (earlier : List Action) (a : Action) (later : List Action) :
    (s.answers (earlier ++ a :: later))[earlier.length]? = some ((s.after earlier).perform a).2 := by
  induction earlier generalizing s with
  | nil => rfl
  | cons b earlier ih => exact ih (s.perform b).1

/-- Every step of every history. The store holds nothing before the first attachment and the module of it
from then on, with the layout that it had and the values that the loads have left; and every step comes to
what it comes to on such a store. What is counted are the learned tensors that names stand for, each of them
once; in a complete module these are all learned tensors. -/
theorem history (device : String) (earlier : List Action) (a : Action) (later : List Action) :
    ∃ held : Option Module,
      (Store.mk device none).after earlier = ⟨device, held⟩ ∧
      Responds device held a ((Store.mk device held).perform a) ∧
      ((Store.mk device none).answers (earlier ++ a :: later))[earlier.length]? =
        some ((Store.mk device held).perform a).2 ∧
      (Store.mk device none).after (earlier ++ [a]) = ((Store.mk device held).perform a).1 ∧
      held.map Module.layout = (firstAttached earlier).map Module.layout ∧
      (Store.mk device held) = (Store.mk device (firstAttached earlier)).after (loadsAfterFirst earlier) ∧
      ∀ m, held = some m → ∀ i, (i ∈ m.layout.learnedSlots ↔
        (m.layout.slot i).learned = true ∧ ∃ name, (name, i) ∈ m.layout.names) ∧
        (m.layout.Complete → (i ∈ m.layout.learnedSlots ↔
          i < m.layout.slots.length ∧ (m.layout.slot i).learned = true)) := by
  obtain ⟨hloads, held, hlayout, hafter⟩ := after_of_empty device earlier
  refine ⟨held, hafter, responds_perform held a, ?_, ?_, hlayout, hafter.symm.trans hloads,
    fun m _ i => ⟨Layout.mem_learnedSlots_iff, fun hcomplete => hcomplete.mem_learnedSlots_iff⟩⟩
  · rw [getElem?_answers, hafter]
  · rw [after_append, hafter]
    rfl

/-- A module of nested parts: a learned tensor with three names, another one, and one that is not learned. -/
def nestedLayout : Layout :=
  .ofParts "Net" [("encoder.inner.weight", [2, 3]), ("bias", [2])] [("encoder.steps", [5])]
    [("head.weight", "encoder.inner.weight"), ("head.tail.weight", "head.weight")]

theorem complete_nestedLayout : nestedLayout.Complete :=
  Layout.complete_ofParts "Net" _ _ ⟨by simp, by simp, trivial⟩

def busyHistory : List Action :=
  [.count, .load "w.bin" wrappedFile, .attach (.zero nestedLayout), .load "w.bin" wrappedFile,
    .attach tiedModule, .access]

/-- A count before the module is refused; the last one sees eight elements, after a load that fails and an
attachment that is refused. -/
theorem history_of_busyHistory :
    ∃ m, (Store.mk "cpu" none).after busyHistory = ⟨"cpu", some m⟩ ∧ m.layout = nestedLayout ∧
      (∀ i, i ∈ m.layout.learnedSlots ↔ i < m.layout.slots.length ∧ (m.layout.slot i).learned = true) ∧
      ((Store.mk "cpu" none).answers (busyHistory ++ [.count]))[busyHistory.length]? =
        some (.ok (.count 8)) ∧
      ((Store.mk "cpu" none).answers (busyHistory ++ [.count]))[0]? = some (.error nothingAttached) := by
  obtain ⟨held, hafter, hresponds, hanswer, -, hlayout, -, hnames⟩ := history "cpu" busyHistory .count []
  obtain ⟨none', hempty, hrefused, hfirst, -⟩ := history "cpu" [] .count (busyHistory.tail ++ [.count])
  cases hempty
  rw [hrefused] at hfirst
  cases held with
  | none => cases hlayout
  | some m =>
    have hm : m.layout = nestedLayout := Option.some.inj hlayout
    have hcount : m.layout.learnedElements = 8 := by
      rw [hm]
      rfl
    rw [hresponds, ← Layout.learnedElements_eq_sum, hcount] at hanswer
    have hcomplete : m.layout.Complete := hm ▸ complete_nestedLayout
    exact ⟨m, hafter, hm, fun i => (hnames m rfl i).2 hcomplete, hanswer, hfirst⟩

end SequenceClassification.Weights.Store
