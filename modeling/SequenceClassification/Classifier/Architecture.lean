import SequenceClassification.Classifier.Activation
import SequenceClassification.Configuration.File

/-!
Architectures: the sizes and special ids that a configuration fixes, and the conditions under which a
classifier can be built with them.
-/
namespace SequenceClassification.Classifier

structure Stack where
  layers : Nat := 0
  heads : Nat := 1
  inner : Nat := 0
deriving Repr, DecidableEq, Inhabited

structure Architecture where
  family : Family
  vocabulary : Nat
  positions : Nat
  tokenTypes : Nat := 0
  width : Nat
  hidden : Nat
  encoder : Stack
  decoder : Stack := {}
  groups : Nat := 1
  perGroup : Nat := 1
  labels : Nat
  margin : Float
  activation : Json
  padId : Json
  closingId : Int := 0
  startId : Int := 0
  scaled : Bool := false
deriving Inhabited

namespace Architecture

def whole (c : Configuration) (name : String) : Int := ((c.attribute? name).bind Json.int?).getD 0

def size (c : Configuration) (name : String) : Nat := (whole c name).toNat

def value (c : Configuration) (name : String) : Json := (c.attribute? name).getD .null

def real (c : Configuration) (name : String) : Float :=
  match value c name with
  | .float x => x
  | .int n => Float.ofInt n
  | _ => 0

def stack (c : Configuration) (layers heads inner : String) : Stack :=
  ⟨size c layers, size c heads, size c inner⟩

def ofConfiguration (family : Family) (c : Configuration) : Architecture :=
  match family with
  | .distilBert =>
    { family := family, vocabulary := size c "vocab_size", positions := size c "max_position_embeddings",
      width := size c "dim", hidden := size c "dim", encoder := stack c "n_layers" "n_heads" "hidden_dim",
      labels := c.labelCount, margin := 1e-12, activation := value c "activation",
      padId := value c "pad_token_id" }
  | .bart =>
    { family := family, vocabulary := size c "vocab_size", positions := size c "max_position_embeddings",
      width := size c "d_model", hidden := size c "d_model",
      encoder := stack c "encoder_layers" "encoder_attention_heads" "encoder_ffn_dim",
      decoder := stack c "decoder_layers" "decoder_attention_heads" "decoder_ffn_dim",
      labels := c.labelCount, margin := 1e-5, activation := value c "activation_function",
      padId := value c "pad_token_id", closingId := whole c "eos_token_id",
      startId := whole c "decoder_start_token_id", scaled := (value c "scale_embedding").truthy }
  | _ =>
    { family := family, vocabulary := size c "vocab_size", positions := size c "max_position_embeddings",
      tokenTypes := size c "type_vocab_size",
      width := size c (if family == .albert then "embedding_size" else "hidden_size"),
      hidden := size c "hidden_size",
      encoder := stack c "num_hidden_layers" "num_attention_heads" "intermediate_size",
      groups := if family == .albert then size c "num_hidden_groups" else 1,
      perGroup := if family == .albert then size c "inner_group_num" else 1,
      labels := c.labelCount, margin := real c "layer_norm_eps", activation := value c "hidden_act",
      padId := value c "pad_token_id" }

def activation? (a : Architecture) : Option Activation := a.activation.str?.bind Activation.ofName?

def unevenHeads (family : Family) (hidden heads : Nat) : Failure :=
  .invalidValue <| match family with
    | .distilBert => "config.n_heads " ++ toString heads ++ " must divide config.dim " ++ toString hidden ++
        " evenly"
    | .bart => "embed_dim must be divisible by num_heads (got \x60embed_dim\x60: " ++ toString hidden ++
        " and \x60num_heads\x60: " ++ toString heads ++ ")."
    | _ => "The hidden size (" ++ toString hidden ++
        ") is not a multiple of the number of attention heads (" ++ toString heads ++ ")"

def checkStack (a : Architecture) (s : Stack) : Except Failure Unit :=
  if s.layers == 0 then .ok ()
  else if s.heads == 0 then .error ⟨.foreign "ZeroDivisionError", "integer modulo by zero"⟩
  else if a.hidden % s.heads != 0 && a.family != .albert then
    .error (unevenHeads a.family a.hidden s.heads)
  else if a.activation?.isNone then .error ⟨.missingKey, a.activation.display⟩
  else .ok ()

def checkPad (a : Architecture) : Except Failure Unit :=
  match a.padId with
  | .int n =>
    if n < a.vocabulary && -(a.vocabulary : Int) ≤ n then .ok ()
    else .error ⟨.foreign "AssertionError", "Padding_idx must be within num_embeddings"⟩
  | _ => .ok ()

def check (a : Architecture) : Except Failure Unit := do
  a.checkPad
  a.checkStack a.encoder
  a.checkStack a.decoder

/-- The classifier has as many classes as the configuration has labels. -/
theorem labels_ofConfiguration (family : Family) (c : Configuration) :
    (ofConfiguration family c).labels = c.labelCount := by
  cases family <;> rfl

end Architecture

end SequenceClassification.Classifier
