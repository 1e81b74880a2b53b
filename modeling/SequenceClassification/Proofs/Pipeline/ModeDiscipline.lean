import SequenceClassification.Proofs.Pipeline.LabelCoverage

/-!
The mode of a pipeline. A call of the classifier sets the mode before it looks at the inputs, and then hands
the model the arguments that its family takes; the forward pass of a classification is a call in evaluation
mode. Nothing else of a pipeline is ever changed. Main statement: whatever calls and classifications came
before, a call is made in its own mode with exactly those arguments, and a classification answers as a
pipeline with the same weights does that was not used before.
-/
namespace SequenceClassification

namespace Classifier

variable {τ ρ : Type}

/-- The arguments that a model of the family takes, with the values of the caller, and named outputs. -/
def keywords (inputs : Supplied τ) : Family → List (String × Argument τ)
  | .bart => [("input_ids", .input (inputs .tokens)), ("attention_mask", .input (inputs .mask)),
      ("return_dict", .switch true)]
  | .distilBert => [("input_ids", .input (inputs .tokens)), ("attention_mask", .input (inputs .mask)),
      ("inputs_embeds", .input (inputs .embeddings)), ("return_dict", .switch true)]
  | _ => [("input_ids", .input (inputs .tokens)), ("attention_mask", .input (inputs .mask)),
      ("token_type_ids", .input (inputs .tokenTypes)), ("position_ids", .input (inputs .positions)),
      ("inputs_embeds", .input (inputs .embeddings)), ("return_dict", .switch true)]

/-- The inputs lack tokens that the family cannot do without. -/
def MissesTokens (family : Family) (inputs : Supplied τ) : Prop :=
  family = .bart ∧ inputs .tokens = none

theorem handed_of_missesTokens {family : Family} {inputs : Supplied τ} (h : MissesTokens family inputs) :
    handed family inputs = .error missingTokens := by
  obtain ⟨rfl, htokens⟩ := h
  simp [handed, htokens]

theorem handed_of_not_missesTokens {family : Family} {inputs : Supplied τ}
    (h : ¬ MissesTokens family inputs) : handed family inputs = .ok (keywords inputs family) := by
  have hguard : (family == .bart && (inputs .tokens).isNone) = false := by
    rw [Bool.and_eq_false_iff]
    by_cases hfamily : family = .bart
    · right
      rw [Option.isNone_eq_false_iff, Option.isSome_iff_ne_none]
      exact fun htokens => h ⟨hfamily, htokens⟩
    · left
      exact beq_eq_false_iff_ne.2 hfamily
  rw [handed, hguard, if_neg Bool.false_ne_true]
  cases family <;> rfl

end Classifier

namespace Pipeline

open Classifier

/-- The pipelines differ in their modes at most. -/
structure Alike (p q : Pipeline) : Prop where
  tokenizer : q.tokenizer = p.tokenizer
  store : q.store = p.store
  labels : q.labels = p.labels
  family : q.classifier.family = p.classifier.family
  architecture : q.classifier.architecture = p.classifier.architecture

theorem Alike.refl (p : Pipeline) : Alike p p := ⟨rfl, rfl, rfl, rfl, rfl⟩

theorem Alike.trans {p q r : Pipeline} (h : Alike p q) (h' : Alike q r) : Alike p r where
  tokenizer := h'.tokenizer.trans h.tokenizer
  store := h'.store.trans h.store
  labels := h'.labels.trans h.labels
  family := h'.family.trans h.family
  architecture := h'.architecture.trans h.architecture

theorem Alike.symm {p q : Pipeline} (h : Alike p q) : Alike q p :=
  ⟨h.tokenizer.symm, h.store.symm, h.labels.symm, h.family.symm, h.architecture.symm⟩

/-- What the network computes in a mode from the weights of the pipeline and what it is handed. -/
def computed (p : Pipeline) (network : Network) (mode : Bool) (handed : List (String × Argument InputValue)) :
    Except Failure Logits :=
  p.store.module.bind fun m => network mode p.classifier.architecture m handed

theorem computed_of_alike {p q : Pipeline} (h : Alike p q) (network : Network) (mode : Bool)
    (handed : List (String × Argument InputValue)) :
    q.computed network mode handed = p.computed network mode handed := by
  rw [computed, computed, h.store, h.architecture]

section
variable (p : Pipeline) (network : Network) (inputs : Supplied InputValue) (train : Bool)

theorem training_call_fst : (p.call network inputs train).1.classifier.training = train := rfl

theorem alike_call : Alike p (p.call network inputs train).1 := ⟨rfl, rfl, rfl, rfl, rfl⟩

theorem call_snd : (p.call network inputs train).2 =
    (handed p.classifier.family inputs).bind (p.computed network train) := rfl

end

section
variable {p q : Pipeline} {network : Network}

theorem prepare_of_alike (h : Alike p q) (texts : Json) : q.prepare texts = p.prepare texts := by
  rw [prepare, prepare, h.tokenizer]

theorem not_missesTokens_batchInputs (family : Family) (b : Batch) :
    ¬ MissesTokens family (batchInputs b) := by
  rintro ⟨-, htokens⟩
  cases htokens

theorem alike_pass (p : Pipeline) (network : Network) (texts : List Json) :
    Alike p (p.pass network texts).1 := by
  cases hprepare : p.prepare (.arr texts) with
  | error e =>
    rw [pass_of_prepare_error hprepare]
    exact Alike.refl p
  | ok b =>
    rw [pass_of_prepare hprepare]
    exact alike_call p network _ _

theorem alike_afterTexts (p : Pipeline) (network : Network) (texts : List Json) :
    Alike p (p.afterTexts network texts) := by
  rw [afterTexts]
  split
  · exact Alike.refl p
  · exact alike_pass p network texts

/-- The forward pass is computed in evaluation mode, from the ids and the mask of the texts. -/
theorem pass_snd (p : Pipeline) (network : Network) (texts : List Json) :
    (p.pass network texts).2 = (p.prepare (.arr texts)).bind fun b =>
      p.computed network false (keywords (batchInputs b) p.classifier.family) := by
  cases hprepare : p.prepare (.arr texts) with
  | error e =>
    rw [pass_of_prepare_error hprepare]
    rfl
  | ok b =>
    rw [pass_of_prepare hprepare, call_snd, handed_of_not_missesTokens (not_missesTokens_batchInputs _ b)]
    rfl

theorem training_afterTexts {texts : List Json} (hne : texts ≠ []) {b : Batch}
    (hprepare : p.prepare (.arr texts) = .ok b) :
    (p.afterTexts network texts).classifier.training = false := by
  rw [afterTexts, if_neg (by simpa using hne), pass_of_prepare hprepare, training_call_fst]

/-- Pipelines that differ in their modes classify alike, if the networks do in evaluation mode. -/
theorem facadeOver_of_alike (h : Alike p q) {network' : Network} (hnetwork : network' false = network false) :
    q.facadeOver network' = p.facadeOver network := by
  have hpass : ∀ texts, (q.pass network' texts).2 = (p.pass network texts).2 := by
    intro texts
    simp only [pass_snd, prepare_of_alike h, h.family, computed_of_alike h]
    simp only [computed, hnetwork]
  simp only [facadeOver, h.labels, hpass]

end

/-- What a pipeline is used for: a call of its classifier, or a classification. In each use something is
drawn at random. -/
inductive Use (δ : Type) where
  | call (draw : δ) (inputs : Supplied InputValue) (train : Bool)
  | predict (draw : δ) (texts : List Json)
  | predictMulti (draw : δ) (texts : List Json) (threshold : Json)

section
variable {δ : Type} (draws : δ → Network)

def afterUse (p : Pipeline) : Use δ → Pipeline
  | .call draw inputs train => (p.call (draws draw) inputs train).1
  | .predict draw texts => (p.predict (draws draw) texts).1
  | .predictMulti draw texts threshold => (p.predictMulti (draws draw) texts threshold).1

def after (p : Pipeline) (history : List (Use δ)) : Pipeline := history.foldl (afterUse draws) p

theorem alike_afterUse (p : Pipeline) (u : Use δ) : Alike p (afterUse draws p u) := by
  cases u with
  | call draw inputs train => exact alike_call p _ _ _
  | predict draw texts => exact alike_afterTexts p _ _
  | predictMulti draw texts threshold => exact alike_afterTexts p _ _

/-- Uses change the mode at most. -/
theorem alike_after (p : Pipeline) (history : List (Use δ)) : Alike p (after draws p history) := by
  induction history generalizing p with
  | nil => exact Alike.refl p
  | cons u history ih => exact (alike_afterUse draws p u).trans (ih (afterUse draws p u))

variable {draws}

/-- The mode of a pipeline never outlives the call that set it. After any history of calls and
classifications, a call leaves its own mode behind, also if it fails for want of tokens; and if it does not,
the model is run in this mode on exactly the arguments that the family takes, with the values of the
caller. A classification after the history is computed in evaluation mode and leaves this mode behind; where
what is drawn at random does not matter in evaluation mode, it answers as any pipeline does that has the
same tokenizer, labels, classifier and weights. -/
theorem mode_discipline (hsteady : ∀ d d', draws d false = draws d' false) (p : Pipeline)
    (history : List (Use δ)) :
    (∀ (d : δ) (inputs : Supplied InputValue) (train : Bool),
      ((after draws p history).call (draws d) inputs train).1.classifier.training = train ∧
      (MissesTokens p.classifier.family inputs →
        ((after draws p history).call (draws d) inputs train).2 = .error missingTokens) ∧
      (¬ MissesTokens p.classifier.family inputs →
        ((after draws p history).call (draws d) inputs train).2 =
          p.computed (draws d) train (keywords inputs p.classifier.family))) ∧
    ∀ (d : δ) (texts : List Json),
      ((after draws p history).pass (draws d) texts).2 = ((p.prepare (.arr texts)).bind fun b =>
        p.computed (draws d) false (keywords (batchInputs b) p.classifier.family)) ∧
      (texts ≠ [] → (∃ b, p.prepare (.arr texts) = .ok b) →
        ((after draws p history).predict (draws d) texts).1.classifier.training = false ∧
        ∀ threshold,
          ((after draws p history).predictMulti (draws d) texts threshold).1.classifier.training = false) ∧
      ∀ (fresh : Pipeline), Alike p fresh → ∀ d',
        ((after draws p history).predict (draws d) texts).2 = (fresh.predict (draws d') texts).2 ∧
        ∀ threshold, ((after draws p history).predictMulti (draws d) texts threshold).2 =
          (fresh.predictMulti (draws d') texts threshold).2 := by
  have halike := alike_after draws p history
  set q := after draws p history
  refine ⟨fun d inputs train => ⟨rfl, fun hmisses => ?_, fun hmisses => ?_⟩, fun d texts => ⟨?_, ?_, ?_⟩⟩
  · rw [call_snd, halike.family, handed_of_missesTokens hmisses]
    rfl
  · rw [call_snd, halike.family, handed_of_not_missesTokens hmisses]
    exact computed_of_alike halike _ _ _
  · simp only [pass_snd, prepare_of_alike halike, halike.family, computed_of_alike halike]
  · rintro hne ⟨b, hb⟩
    have hmode : (q.afterTexts (draws d) texts).classifier.training = false :=
      training_afterTexts hne ((prepare_of_alike halike _).trans hb)
    exact ⟨hmode, fun _ => hmode⟩
  · intro fresh hfresh d'
    have hsame : q.facadeOver (draws d) = fresh.facadeOver (draws d') :=
      facadeOver_of_alike (hfresh.symm.trans halike) (hsteady d d')
    rw [predict, predict, hsame]
    refine ⟨rfl, fun threshold => ?_⟩
    rw [predictMulti, predictMulti, hsame]

end

/-- A network that answers at random while training. -/
def noisy (draw : Float32) : Network
  | true => fun _ _ _ => .ok [[draw, -draw]]
  | false => Classifier.logits

theorem mode_discipline_of_noisy :
    ∃ p, build roomy smallSettings (smallDisk "\"1\":\"yes\",\"00\":\"no\"") noHub = .ok p ∧
      (∀ d d', noisy d false = noisy d' false) ∧
      ∀ inputs texts,
        ((after noisy p [.call 2 inputs true, .predict 3 texts]).call (noisy 5) inputs true).2 =
          .ok [[5, -5]] ∧
        ((after noisy p [.predict 3 texts, .call 2 inputs true]).predict (noisy 5) texts).2 =
          p.facade.predict texts := by
  have hbuild : (build roomy smallSettings (smallDisk "\"1\":\"yes\",\"00\":\"no\"") noHub).toOption.map
      (fun p => (p.classifier.family, p.store.attached.isSome)) = some (.distilBert, true) := by
    decide +kernel
  obtain ⟨p, hp, heq⟩ := toOption_map_eq_some hbuild
  obtain ⟨hfamily, hattached⟩ := Prod.mk.inj heq
  obtain ⟨m, hm⟩ := Option.isSome_iff_exists.1 hattached
  have hsteady : ∀ d d', noisy d false = noisy d' false := fun _ _ => rfl
  refine ⟨p, hp, hsteady, fun inputs texts => ⟨?_, ?_⟩⟩
  · have hcall := (mode_discipline hsteady p [.call 2 inputs true, .predict 3 texts]).1 5 inputs true
    have hmisses : ¬ MissesTokens p.classifier.family inputs := by
      rw [hfamily]
      rintro ⟨hbart, -⟩
      cases hbart
    have hmodule : p.store.module = .ok m := by
      rw [Weights.Store.module, hm]
    rw [hcall.2.2 hmisses, computed, hmodule]
    rfl
  · have hlast := (mode_discipline hsteady p [.predict 3 texts, .call 2 inputs true]).2 5 texts
    exact (hlast.2.2 p (Alike.refl p) 5).1

end Pipeline

end SequenceClassification
