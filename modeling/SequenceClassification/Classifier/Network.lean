import SequenceClassification.Classifier.Attention
import SequenceClassification.Classifier.Inputs
import SequenceClassification.Classifier.Layout
import SequenceClassification.Facade
import SequenceClassification.Weights.Module

/-!
The forward pass of a classifier: embeddings of tokens and positions, a stack of blocks, and a head that
reads one position. The parameters are those of a module that has the layout of the architecture.
-/
namespace SequenceClassification.Classifier

/-- An input of the forward pass: a number for each position of each sequence, or a vector. -/
inductive InputValue where
  | numbers (rows : List (List Int))
  | vectors (rows : List (List Vector))
deriving Inhabited

def InputValue.numbers? : InputValue → Option (List (List Int))
  | .numbers rows => some rows
  | .vectors _ => none

def InputValue.vectors? : InputValue → Option (List (List Vector))
  | .vectors rows => some rows
  | .numbers _ => none

namespace Parameters

def slotOf (m : Weights.Module) (name : String) : Nat := (Entries.get? name m.layout.names).getD 0

def vector (m : Weights.Module) (name : String) : Vector :=
  (m.valuesOf (slotOf m name)).map Float32.toFloat

def matrix (m : Weights.Module) (name : String) : Matrix :=
  match (m.layout.slot (slotOf m name)).shape with
  | [rows, width] =>
    let values := vector m name
    (List.range rows).map fun i => (values.drop (i * width)).take width
  | _ => []

def embedding (m : Weights.Module) (name : String) : Matrix := matrix m (name ++ ".weight")

def affine (m : Weights.Module) (name : String) : Affine :=
  ⟨matrix m (name ++ ".weight"), vector m (name ++ ".bias")⟩

def norm (m : Weights.Module) (margin : Float) (name : String) : Norm :=
  ⟨vector m (name ++ ".weight"), vector m (name ++ ".bias"), margin⟩

end Parameters

structure Head where
  dense : Affine
  bend : Float → Float
  output : Affine
deriving Inhabited

def Head.apply (h : Head) (x : Vector) : Vector := h.output.apply ((h.dense.apply x).map h.bend)

def rectified (x : Float) : Float := Activation.relu.apply x

section
variable (a : Architecture) (m : Weights.Module)

def attentionOf (heads : Nat) (query key value output : String) : Attention :=
  ⟨Parameters.affine m query, Parameters.affine m key, Parameters.affine m value,
    Parameters.affine m output, heads⟩

def activationOf : Activation := (a.activation?).getD default

def encoderBlock (layer : String) : Block :=
  let norm := Parameters.norm m a.margin
  let lead := layer ++ "attention."
  let block (attention attentionNorm inner outer last : String) (parts : List String) : Block :=
    match parts.map (attention ++ ·) with
    | [q, k, v, o] =>
      { attention := attentionOf m a.encoder.heads q k v o, attentionNorm := norm attentionNorm,
        inner := Parameters.affine m inner, outer := Parameters.affine m outer, norm := norm last,
        activation := activationOf a }
    | _ => default
  match a.family with
  | .distilBert =>
    block lead (layer ++ "sa_layer_norm") (layer ++ "ffn.lin1") (layer ++ "ffn.lin2")
      (layer ++ "output_layer_norm") ["q_lin", "k_lin", "v_lin", "out_lin"]
  | .albert =>
    block lead (lead ++ "LayerNorm") (layer ++ "ffn") (layer ++ "ffn_output")
      (layer ++ "full_layer_layer_norm") ["query", "key", "value", "dense"]
  | .bart =>
    block (layer ++ "self_attn.") (layer ++ "self_attn_layer_norm") (layer ++ "fc1") (layer ++ "fc2")
      (layer ++ "final_layer_norm") ["q_proj", "k_proj", "v_proj", "out_proj"]
  | _ =>
    block lead (lead ++ "output.LayerNorm") (layer ++ "intermediate.dense") (layer ++ "output.dense")
      (layer ++ "output.LayerNorm") ["self.query", "self.key", "self.value", "output.dense"]

def decoderBlock (layer : String) : Block :=
  let own := encoderBlock a m layer
  let lead := layer ++ "encoder_attn"
  { own with
    attention := { own.attention with heads := a.decoder.heads }
    cross := some (attentionOf m a.decoder.heads (lead ++ ".q_proj") (lead ++ ".k_proj") (lead ++ ".v_proj")
        (lead ++ ".out_proj"), Parameters.norm m a.margin (lead ++ "_layer_norm")) }

/-- The group of shared parameters that a layer uses. -/
def groupOf (layer : Nat) : Nat :=
  (layer.toFloat / (a.encoder.layers.toFloat / a.groups.toFloat)).floor.toUInt64.toNat

def encoderBlocks : List Block :=
  (List.range a.encoder.layers).flatMap fun (n : Nat) =>
    match a.family with
    | .distilBert => [encoderBlock a m ("distilbert.transformer.layer." ++ toString n ++ ".")]
    | .albert => (List.range a.perGroup).map fun (k : Nat) =>
        encoderBlock a m ("albert.encoder.albert_layer_groups." ++ toString (groupOf a n) ++
          ".albert_layers." ++ toString k ++ ".")
    | .bart => [encoderBlock a m ("model.encoder.layers." ++ toString n ++ ".")]
    | .roberta | .xlmRoberta => [encoderBlock a m ("roberta.encoder.layer." ++ toString n ++ ".")]
    | _ => [encoderBlock a m ("bert.encoder.layer." ++ toString n ++ ".")]

def decoderBlocks : List Block :=
  (List.range a.decoder.layers).map fun (n : Nat) =>
    decoderBlock a m ("model.decoder.layers." ++ toString n ++ ".")

def headOf : Head :=
  match a.family with
  | .distilBert => ⟨Parameters.affine m "pre_classifier", rectified, Parameters.affine m "classifier"⟩
  | .albert => ⟨Parameters.affine m "albert.pooler", Float.tanh, Parameters.affine m "classifier"⟩
  | .bart => ⟨Parameters.affine m "classification_head.dense", Float.tanh,
      Parameters.affine m "classification_head.out_proj"⟩
  | .roberta | .xlmRoberta => ⟨Parameters.affine m "classifier.dense", Float.tanh,
      Parameters.affine m "classifier.out_proj"⟩
  | _ => ⟨Parameters.affine m "bert.pooler.dense", Float.tanh, Parameters.affine m "classifier"⟩

end

def rowAt (table : Matrix) (i : Int) : Except Failure Vector :=
  match (if i < 0 then none else table[i.toNat]?) with
  | some v => .ok v
  | none => .error (.outOfRange "index out of range in self")

def rowsAt (table : Matrix) (rows : List (List Int)) : Except Failure (List (List Vector)) :=
  rows.mapM fun row => row.mapM (rowAt table)

/-- A row for each of `count` sequences; a single row stands for all of them. -/
def forEach {β : Type} (count : Nat) (rows : List (List β)) : List (List β) :=
  match rows with
  | [row] => List.replicate count row
  | rows => rows

def plusAll (xs ys : List (List Vector)) : List (List Vector) := xs.zipWith (List.zipWith plus) ys

def tooLong (length positions : Nat) : Failure :=
  .runtime ("The size of tensor a (" ++ toString length ++ ") must match the size of tensor b (" ++
    toString positions ++ ") at non-singleton dimension 1")

def noTokenTypes (count length positions : Nat) : Failure :=
  .runtime ("The expanded size of the tensor (" ++ toString length ++ ") must match the existing size (" ++
    toString positions ++ ") at non-singleton dimension 1.  Target sizes: [" ++ toString count ++ ", " ++
    toString length ++ "].  Tensor sizes: [1, " ++ toString positions ++ "]")

/-- The positions of a sequence that are counted from behind `pad`, tokens equal to `pad` not counting. -/
def countedPositions (pad : Int) (tokens : List Int) : List Int :=
  (tokens.foldl (fun (done, n) t => if t = pad then (pad :: done, n) else ((pad + n + 1) :: done, n + 1))
    (([] : List Int), (0 : Int))).1.reverse

/-- The words of the sequences: exactly one of tokens and embeddings has to be supplied. -/
def wordsOf (table : Matrix) (tokens : Option (List (List Int))) (vectors : Option (List (List Vector))) :
    Except Failure (List (List Vector)) :=
  match tokens, vectors with
  | some _, some _ =>
    .error (.invalidValue "You cannot specify both input_ids and inputs_embeds at the same time")
  | none, none => .error (.invalidValue "You have to specify either input_ids or inputs_embeds")
  | some rows, none => rowsAt table rows
  | none, some vs => .ok vs

def extent (tokens : Option (List (List Int))) (vectors : Option (List (List Vector))) : Nat × Nat :=
  match tokens, vectors with
  | some rows, _ => (rows.length, (rows.headD []).length)
  | none, some vs => (vs.length, (vs.headD []).length)
  | none, none => (0, 0)

def defaultPositions (a : Architecture) (tokens : Option (List (List Int))) (count length : Nat) :
    Except Failure (List (List Int)) :=
  let pad := (a.padId.int?).getD 0
  let from_ (first : Int) : List (List Int) :=
    List.replicate count ((List.range length).map fun (i : Nat) => first + i)
  match a.family, tokens with
  | .roberta, some rows | .xlmRoberta, some rows => .ok (rows.map (countedPositions pad))
  | .roberta, none | .xlmRoberta, none => .ok (from_ (pad + 1))
  | _, _ => if a.positions < length then .error (tooLong length a.positions) else .ok (from_ 0)

def threefoldEmbeddings (a : Architecture) (m : Weights.Module) (lead : String)
    (numbers : Input → Option (List (List Int))) (vectors : Option (List (List Vector))) :
    Except Failure (List (List Vector)) := do
  let (count, length) := extent (numbers .tokens) vectors
  let table (name : String) := Parameters.embedding m (lead ++ "embeddings." ++ name)
  let types := numbers .tokenTypes
  let bounded := types.isNone && (numbers .tokens).isSome != vectors.isSome
  if bounded && a.positions < length then throw (noTokenTypes count length a.positions)
  let words ← wordsOf (table "word_embeddings") (numbers .tokens) vectors
  let types := forEach count (types.getD [List.replicate length 0])
  let typeVectors ← rowsAt (table "token_type_embeddings") types
  let positions ← match numbers .positions with
    | some rows => .ok (forEach count rows)
    | none => defaultPositions a (numbers .tokens) count length
  let positionVectors ← rowsAt (table "position_embeddings") positions
  let norm := Parameters.norm m a.margin (lead ++ "embeddings.LayerNorm")
  pure ((plusAll (plusAll words typeVectors) positionVectors).map fun xs => xs.map norm.apply)

def twofoldEmbeddings (a : Architecture) (m : Weights.Module) (tokens : Option (List (List Int)))
    (vectors : Option (List (List Vector))) : Except Failure (List (List Vector)) := do
  let lead := "distilbert.embeddings."
  let (count, length) := extent tokens vectors
  let words ← wordsOf (Parameters.embedding m (lead ++ "word_embeddings")) tokens vectors
  let positions ← defaultPositions a tokens count length
  let positionVectors ← rowsAt (Parameters.embedding m (lead ++ "position_embeddings")) positions
  let norm := Parameters.norm m a.margin (lead ++ "LayerNorm")
  pure ((plusAll words positionVectors).map fun xs => xs.map norm.apply)

/-- Positions begin at the third row of the tables of models of two halves. -/
def positionOffset : Int := 2

def halfEmbeddings (a : Architecture) (m : Weights.Module) (lead : String) (tokens : List (List Int)) :
    Except Failure (List (List Vector)) := do
  let factor := if a.scaled then a.hidden.toFloat.sqrt else 1
  let words ← rowsAt (Parameters.embedding m "model.shared") tokens
  let positions := tokens.map fun row => (List.range row.length).map fun (i : Nat) => positionOffset + i
  let positionVectors ← rowsAt (Parameters.embedding m (lead ++ "embed_positions")) positions
  let norm := Parameters.norm m a.margin (lead ++ "layernorm_embedding")
  pure ((plusAll (words.map fun row => row.map (scale factor)) positionVectors).map
    fun xs => xs.map norm.apply)

/-- Which positions of a sequence may be looked at: those whose mask is one, or all without a mask. -/
def unmasked (mask : Option (List (List Int))) (sequence : Nat) : Visible :=
  match mask with
  | none => fun _ _ => true
  | some rows =>
    let row := (rows[sequence]?).getD []
    fun _ j => row[j]? == some 1

def firstLogits (a : Architecture) (m : Weights.Module) (mask : Option (List (List Int)))
    (sequences : List (List Vector)) : Logits :=
  let blocks := encoderBlocks a m
  let head := headOf a m
  sequences.zipIdx.map fun (xs, i) =>
    let out := applyBlocks blocks (unmasked mask i) ([], fun _ _ => true) xs
    (head.apply (out.headD [])).map Float.toFloat32

/-- The tokens that a decoder starts from: all but the last, behind the starting token. -/
def shifted (start : Int) (tokens : List Int) : List Int := start :: tokens.dropLast

def lastClosing (closing : Int) (tokens : List Int) (states : List Vector) : Vector :=
  (((tokens.zip states).filter fun e => e.1 == closing).getLast?.map Prod.snd).getD []

def checkClosing (a : Architecture) (tokens : List (List Int)) : Except Failure Unit :=
  match tokens.map fun row => row.count a.closingId with
  | [] => .ok ()
  | n :: rest =>
    if rest.any (· != n) then
      .error (.invalidValue "All examples must have the same number of <eos> tokens.")
    else if n == 0 then
      .error (.runtime ("cannot reshape tensor of 0 elements into shape [" ++ toString tokens.length ++
        ", -1, " ++ toString a.hidden ++ "] because the unspecified dimension size -1 can be any value " ++
        "and is ambiguous"))
    else .ok ()

/-- The logits of a model of two halves: the decoder reads the sequence itself, one token behind. -/
def halvesLogits (a : Architecture) (m : Weights.Module) (tokens : List (List Int))
    (mask : Option (List (List Int))) : Except Failure Logits := do
  let encoded ← halfEmbeddings a m "model.encoder." tokens
  let decoded ← halfEmbeddings a m "model.decoder." (tokens.map (shifted a.startId))
  checkClosing a tokens
  let encoder := encoderBlocks a m
  let decoder := decoderBlocks a m
  let head := headOf a m
  pure ((tokens.zip (encoded.zip decoded)).zipIdx.map fun ((row, xs, ys), i) =>
    let visible := unmasked mask i
    let memory := applyBlocks encoder visible ([], fun _ _ => true) xs
    let out := applyBlocks decoder lookingBack (memory, visible) ys
    (head.apply (lastClosing a.closingId row out)).map Float.toFloat32)

def logits (a : Architecture) (m : Weights.Module) (inputs : Handed InputValue) :
    Except Failure Logits := do
  let numbers (i : Input) := (inputs.get? i).bind InputValue.numbers?
  let vectors := (inputs.get? .embeddings).bind InputValue.vectors?
  match a.family with
  | .bart => halvesLogits a m ((numbers .tokens).getD []) (numbers .mask)
  | .distilBert => pure (firstLogits a m (numbers .mask) (← twofoldEmbeddings a m (numbers .tokens) vectors))
  | .albert =>
    let xs ← threefoldEmbeddings a m "albert." numbers vectors
    let wider := Parameters.affine m "albert.encoder.embedding_hidden_mapping_in"
    pure (firstLogits a m (numbers .mask) (xs.map fun row => row.map wider.apply))
  | .roberta | .xlmRoberta =>
    pure (firstLogits a m (numbers .mask) (← threefoldEmbeddings a m "roberta." numbers vectors))
  | _ => pure (firstLogits a m (numbers .mask) (← threefoldEmbeddings a m "bert." numbers vectors))

/-- There is a position for each token. -/
theorem length_countedPositions (pad : Int) (tokens : List Int) :
    (countedPositions pad tokens).length = tokens.length := by
  have key : ∀ (l : List Int) (done : List Int) (n : Int),
      (l.foldl (fun (p : List Int × Int) t =>
        if t = pad then (pad :: p.1, p.2) else ((pad + p.2 + 1) :: p.1, p.2 + 1)) (done, n)).1.length =
        done.length + l.length := by
    intro l
    induction l with
    | nil => intro done n; rfl
    | cons t l ih =>
      intro done n
      rw [List.foldl_cons]
      split <;> rw [ih] <;> simp <;> omega
  simpa [countedPositions] using key tokens [] 0

/-- There is a row of logits for each sequence. -/
theorem length_firstLogits (a : Architecture) (m : Weights.Module) (mask : Option (List (List Int)))
    (sequences : List (List Vector)) : (firstLogits a m mask sequences).length = sequences.length := by
  simp [firstLogits]

end SequenceClassification.Classifier
