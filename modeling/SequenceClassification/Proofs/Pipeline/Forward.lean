import SequenceClassification.Pipeline
import SequenceClassification.Proofs.Classifier.Logits

/-!
What the forward pass of a pipeline comes to. Encoding and padding fail with general failures only, and
of the pipeline's own failures there is the one of a tokenizer without padding. Main statement: a pipeline
whose module has the layout of its classifier gives rows as narrow as the classes, and fails in no other
way.
-/
namespace SequenceClassification

namespace Tokenizer

theorem suppliedItems_yields (texts : Json) :
    Yields (suppliedItems texts) (fun _ => True) (·.isOwn = false) := by
  unfold suppliedItems
  split
  · trivial
  · trivial
  · trivial
  · split
    · rfl
    · trivial

theorem suppliedStrategy_yields (limit : Option Int) (strategy : Json) :
    Yields (suppliedStrategy limit strategy) (fun _ => True) (·.isOwn = false) := by
  unfold suppliedStrategy
  split
  · trivial
  · unfold TruncationStrategy.ofValue
    split
    · trivial
    · split
      · trivial
      · rfl

theorem checkLowers_yields (v : Json) : Yields (checkLowers v) (fun _ => True) (·.isOwn = false) := by
  unfold checkLowers
  split
  · trivial
  · rfl

theorem itemText_yields (v : Json) : Yields (itemText v) (fun _ => True) (·.isOwn = false) := by
  unfold itemText
  split
  · trivial
  · unfold noText
    split <;> rfl

theorem encodeAll_yields (t : Tokenizer) (texts : Json) (limit : Option Int) (strategy : Json) :
    Yields (t.encodeAll texts limit strategy) (fun _ => True) (·.isOwn = false) := by
  unfold encodeAll
  refine (suppliedItems_yields texts).bind fun items _ => ?_
  split
  · trivial
  · rename_i first rest
    have hrest : Yields (do
        let s ← suppliedStrategy limit strategy
        let texts ← (first :: rest).mapM itemText
        pure (texts.map (t.encode s (limit.getD (defaultLimit t.family)))))
        (fun _ => True) (fun e : Failure => e.isOwn = false) := by
      refine (suppliedStrategy_yields limit strategy).bind fun s _ => ?_
      exact (Yields.mapM fun v _ => itemText_yields v).bind fun _ _ => trivial
    dsimp only
    split
    · refine (Yields.forM fun v _ => checkLowers_yields v).bind fun _ _ => ?_
      exact Yields.guard rfl hrest
    · exact Yields.guard rfl hrest

end Tokenizer

theorem suppliedTokenId_yields (v : Json) :
    Yields (suppliedTokenId v) (fun _ => True) (·.isOwn = false) := by
  fun_induction suppliedTokenId v with
  | case1 => trivial
  | case2 => trivial
  | case3 => rfl
  | case4 => rfl
  | case5 => trivial
  | case6 v ih => exact ih
  | case7 => rfl

theorem BatchFault.isOwn_failure (f : BatchFault) : f.failure.isOwn = false := by
  cases f <;> rfl

theorem suppliedToken_yields (v : Json) :
    Yields (suppliedToken v) (fun _ => True) (·.isOwn = false) := by
  refine (suppliedTokenId_yields v).bind fun n _ => ?_
  split
  · trivial
  · exact BatchFault.tokenOutOfRange.isOwn_failure

theorem suppliedBatch_yields (sequences : List (List Json)) (padId : Json) :
    Yields (suppliedBatch sequences padId) (fun _ => True) (·.isOwn = false) := by
  unfold suppliedBatch
  have hpad : ∀ rows pad, Yields ((Batch.pad rows pad).mapError BatchFault.failure) (fun _ => True)
      (·.isOwn = false) := by
    intro rows pad
    cases h : Batch.pad rows pad with
    | error f => exact f.isOwn_failure
    | ok b => trivial
  have hrow : ∀ s ∈ sequences, Yields (s.mapM suppliedToken) (fun _ => True) (·.isOwn = false) :=
    fun s _ =>
      (Yields.mapM fun v _ => suppliedToken_yields v).mono (fun _ _ => trivial) fun _ h => h
  refine Yields.guard rfl ((suppliedTokenId_yields padId).bind fun pad _ => ?_)
  exact Yields.guard rfl ((Yields.mapM hrow).bind fun rows _ => hpad rows pad)

namespace Pipeline

/-- The failures of classification: none of the pipeline's own but the one of missing padding. -/
def General (e : Failure) : Prop := e.isOwn = false ∨ e = noPad

theorem general_of_isOwn {e : Failure} (h : e.isOwn = false) : General e := Or.inl h

theorem General.kind_ne {e : Failure} (h : General e) : e.kind ≠ .own .labelMapping := by
  intro hkind
  rcases h with h | rfl
  · simp [Failure.isOwn, hkind] at h
  · cases hkind

/-- The module of the pipeline has the layout of its classifier. -/
def Fitted (p : Pipeline) : Prop :=
  ∀ m, p.store.attached = some m → m.layout = p.classifier.architecture.layout

variable {p : Pipeline}

theorem prepare_yields (p : Pipeline) (texts : Json) :
    Yields (p.prepare texts) (fun _ => True) General := by
  unfold prepare
  refine ((p.tokenizer.encodeAll_yields _ _ _).mono_right
    fun _ h => general_of_isOwn h).bind fun ids _ => ?_
  split
  · exact Or.inr rfl
  · exact (suppliedBatch_yields _ _).mono_right fun _ h => general_of_isOwn h

/-- A call that supplies tokens misses no input. -/
theorem call_yields (h : p.Fitted) {inputs : Classifier.Supplied Classifier.InputValue} {train : Bool}
    (htokens : (inputs .tokens).isSome = true) :
    Yields (p.call .steady inputs train).2 (Narrow p.classifier.labelCount) General := by
  have hhanded : ∃ handed, Classifier.handed p.classifier.family inputs = .ok handed := by
    rw [Classifier.handed, if_neg (by simp [Option.isNone_iff_eq_none, Option.isSome_iff_ne_none.1 htokens])]
    exact ⟨_, rfl⟩
  obtain ⟨handed, hhanded⟩ := hhanded
  simp only [call, Classifier.call, hhanded, Except.bind, Network.steady]
  unfold Weights.Store.module
  cases hm : p.store.attached with
  | none => exact general_of_isOwn rfl
  | some m =>
    exact (Classifier.logits_yields (h m hm) _).mono_right fun _ h => general_of_isOwn h

/-- The logits of texts are as narrow as the classes, and classification has few ways to fail. -/
theorem forward_yields (h : p.Fitted) (texts : List Json) :
    Yields (p.forward texts) (Narrow p.classifier.labelCount) General := by
  cases hprepare : p.prepare (.arr texts) with
  | error e =>
    rw [forward, pass_of_prepare_error hprepare]
    exact (p.prepare_yields _).of_error hprepare
  | ok b =>
    rw [forward, pass_of_prepare hprepare]
    exact call_yields h rfl

end Pipeline

end SequenceClassification
