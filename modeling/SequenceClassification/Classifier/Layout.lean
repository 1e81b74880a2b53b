import SequenceClassification.Classifier.Architecture
import SequenceClassification.Weights.Layout

/-!
The tensors of classifiers: their names, in the order in which a state lists them, and their shapes.
-/
namespace SequenceClassification.Classifier

abbrev Tensors := List (String × List Nat)

namespace Tensors

def affine (name : String) (outputs inputs : Nat) : Tensors :=
  [(name ++ ".weight", [outputs, inputs]), (name ++ ".bias", [outputs])]

def norm (name : String) (size : Nat) : Tensors := [(name ++ ".weight", [size]), (name ++ ".bias", [size])]

def embedding (name : String) (count size : Nat) : Tensors := [(name ++ ".weight", [count, size])]

def squares (names : List String) (size : Nat) : Tensors := names.flatMap fun n => affine n size size

def numbered (lead : String) (count : Nat) (each : String → Tensors) : Tensors :=
  (List.range count).flatMap fun (n : Nat) => each (lead ++ toString n ++ ".")

def threefold (lead : String) (a : Architecture) : Tensors :=
  embedding (lead ++ "word_embeddings") a.vocabulary a.width ++
    embedding (lead ++ "position_embeddings") a.positions a.width ++
    embedding (lead ++ "token_type_embeddings") a.tokenTypes a.width ++ norm (lead ++ "LayerNorm") a.width

def encoder (lead : String) (a : Architecture) : Tensors :=
  threefold (lead ++ "embeddings.") a ++
    numbered (lead ++ "encoder.layer.") a.encoder.layers fun layer =>
      squares (["self.query", "self.key", "self.value", "output.dense"].map (layer ++ "attention." ++ ·))
          a.hidden ++
        norm (layer ++ "attention.output.LayerNorm") a.hidden ++
        affine (layer ++ "intermediate.dense") a.encoder.inner a.hidden ++
        affine (layer ++ "output.dense") a.hidden a.encoder.inner ++
        norm (layer ++ "output.LayerNorm") a.hidden

/-- One half of a model of two halves, without its token table. -/
def half (lead : String) (a : Architecture) (s : Stack) (attentions : List String) : Tensors :=
  embedding (lead ++ "embed_positions") (a.positions + 2) a.hidden ++
    numbered (lead ++ "layers.") s.layers (fun layer =>
      attentions.flatMap (fun attention =>
        squares ([".k_proj", ".v_proj", ".q_proj", ".out_proj"].map (layer ++ attention ++ ·)) a.hidden ++
          norm (layer ++ attention ++ "_layer_norm") a.hidden) ++
        affine (layer ++ "fc1") s.inner a.hidden ++ affine (layer ++ "fc2") a.hidden s.inner ++
        norm (layer ++ "final_layer_norm") a.hidden) ++
    norm (lead ++ "layernorm_embedding") a.hidden

def ofArchitecture (a : Architecture) : Tensors :=
  match a.family with
  | .distilBert =>
    embedding "distilbert.embeddings.word_embeddings" a.vocabulary a.hidden ++
      embedding "distilbert.embeddings.position_embeddings" a.positions a.hidden ++
      norm "distilbert.embeddings.LayerNorm" a.hidden ++
      numbered "distilbert.transformer.layer." a.encoder.layers (fun layer =>
        squares (["q_lin", "k_lin", "v_lin", "out_lin"].map (layer ++ "attention." ++ ·)) a.hidden ++
          norm (layer ++ "sa_layer_norm") a.hidden ++
          affine (layer ++ "ffn.lin1") a.encoder.inner a.hidden ++
          affine (layer ++ "ffn.lin2") a.hidden a.encoder.inner ++
          norm (layer ++ "output_layer_norm") a.hidden) ++
      affine "pre_classifier" a.hidden a.hidden ++ affine "classifier" a.labels a.hidden
  | .albert =>
    threefold "albert.embeddings." a ++
      affine "albert.encoder.embedding_hidden_mapping_in" a.hidden a.width ++
      numbered "albert.encoder.albert_layer_groups." a.groups (fun group =>
        numbered (group ++ "albert_layers.") a.perGroup fun layer =>
          norm (layer ++ "full_layer_layer_norm") a.hidden ++
            squares (["query", "key", "value", "dense"].map (layer ++ "attention." ++ ·)) a.hidden ++
            norm (layer ++ "attention.LayerNorm") a.hidden ++
            affine (layer ++ "ffn") a.encoder.inner a.hidden ++
            affine (layer ++ "ffn_output") a.hidden a.encoder.inner) ++
      affine "albert.pooler" a.hidden a.hidden ++ affine "classifier" a.labels a.hidden
  | .bart =>
    embedding "model.shared" a.vocabulary a.hidden ++
      embedding "model.encoder.embed_tokens" a.vocabulary a.hidden ++
      half "model.encoder." a a.encoder ["self_attn"] ++
      embedding "model.decoder.embed_tokens" a.vocabulary a.hidden ++
      half "model.decoder." a a.decoder ["self_attn", "encoder_attn"] ++
      affine "classification_head.dense" a.hidden a.hidden ++
      affine "classification_head.out_proj" a.labels a.hidden
  | .roberta | .xlmRoberta =>
    encoder "roberta." a ++ affine "classifier.dense" a.hidden a.hidden ++
      affine "classifier.out_proj" a.labels a.hidden
  | _ =>
    encoder "bert." a ++ affine "bert.pooler.dense" a.hidden a.hidden ++ affine "classifier" a.labels a.hidden

end Tensors

/-- The name whose tensor a name stands for: the halves of a model share one token table. -/
def sharedName (name : String) : String :=
  if name == "model.encoder.embed_tokens.weight" || name == "model.decoder.embed_tokens.weight" then
    "model.shared.weight"
  else name

def layoutOf (className : String) (tensors : Tensors) : Weights.Layout :=
  let owned := tensors.filter fun t => sharedName t.1 == t.1
  ⟨className, owned.map fun t => ⟨t.2, true⟩,
    tensors.map fun t => (t.1, owned.findIdx fun o => o.1 == sharedName t.1)⟩

def className (f : Family) : String := f.displayName ++ "ForSequenceClassification"

def Architecture.layout (a : Architecture) : Weights.Layout :=
  layoutOf (className a.family) (Tensors.ofArchitecture a)

end SequenceClassification.Classifier
