import SequenceClassification.Configuration.Kind
import SequenceClassification.Decimal.Integer
import SequenceClassification.Json.Writer
import SequenceClassification.Label
import SequenceClassification.Text.Split

/-!
Building a configuration from the attributes that are given. Attributes that are not given have the
defaults of the kind. The label table is written out or numbered: a table of texts by class id wins over a
number of labels. Main statement: numbered labels cover every
id below their number.
-/
namespace SequenceClassification

structure Configuration where
  kind : ConfigKind
  attributes : Entries String Json
  labels : LabelTable
deriving Inhabited

namespace Configuration

def labelCount (c : Configuration) : Nat := c.labels.length

def labelObject (c : Configuration) : Json := .obj (c.labels.map fun (id, text) => (toString id, text))

/-- The value of an attribute under any of its names. -/
def attribute? (c : Configuration) (name : String) : Option Json :=
  if name == "num_labels" then some (.int c.labelCount)
  else if name == "id2label" then some c.labelObject
  else Entries.get? (c.kind.attributeName name) c.attributes

def problemTypes : List String := ["regression", "single_label_classification", "multi_label_classification"]

def numberedLabels (count : Nat) : LabelTable :=
  (List.range count).map fun (i : Nat) => ((i : Int), .str ("LABEL_" ++ toString i))

def defaultLabelCount : Nat := 2

def requestedLabels : Json → Except Failure Nat
  | .null => .ok defaultLabelCount
  | .int n => .ok n.toNat
  | .bool b => .ok (if b then 1 else 0)
  | v => .error (.wrongType ("'" ++ v.kindName ++ "' object cannot be interpreted as an integer"))

/-- Reads the class ids of a table of label texts; ids that are written twice keep the last text. -/
def readTable (fields : List (String × Json)) : Except Failure LabelTable :=
  (fields.mapM readEntry).map Entries.ofPairs
where
  readEntry (field : String × Json) : Except Failure (Int × Json) :=
    match Decimal.readInteger field.1 with
    | .ok id => .ok (id, field.2)
    | .error e => .error (.invalidValue (e.message field.1))

def checkTable (name : String) : Json → Except Failure Unit
  | .null | .obj _ => .ok ()
  | _ => .error (.invalidValue ("Argument " ++ name ++ " should be a dictionary."))

def checkProblem : Json → Except Failure Unit
  | .null => .ok ()
  | .str s => if problemTypes.contains s then .ok () else refuse (.str s)
  | v => refuse v
where
  refuse (v : Json) : Except Failure Unit :=
    .error (.invalidValue ("The config parameter " ++ "`problem_type`" ++ " was not understood: received " ++
      v.inText ++ " but only 'regression', 'single_label_classification' and " ++
      "'multi_label_classification' are valid."))

def labelsOf (given : Entries String Json) : Except Failure LabelTable :=
  match Entries.get? "id2label" given with
  | some (.obj fields) => readTable fields
  | _ => (requestedLabels ((Entries.get? "num_labels" given).getD .null)).map numberedLabels

def projection (v : Json) : Except Failure (String × Bool) :=
  match v with
  | .str s =>
    let parts := (Text.splitOnChar '-' s.toList).map String.ofList
    let gated := parts.head? == some "gated"
    if 2 < parts.length || (1 < parts.length && !gated) then
      .error (.invalidValue ("`feed_forward_proj`: " ++ s ++
        " is not a valid activation function of the dense layer. Please make sure `feed_forward_proj` " ++
        "is of the format `gated-\x7bACT_FN\x7d` or `\x7bACT_FN\x7d`, e.g. 'gated-gelu' or 'relu'"))
    else .ok (if s == "gated-gelu" then "gelu_new" else parts.getLast?.getD "", gated)
  | v => .error ⟨.missingAttribute, "'" ++ v.kindName ++ "' object has no attribute 'split'"⟩

/-- Attributes that a kind derives from the others, as far as they are not given. -/
def derived (k : ConfigKind) (attributes : Entries String Json) : Except Failure (Entries String Json) :=
  let value (name : String) : Json := (Entries.get? name attributes).getD .null
  if k.tag == Family.t5.tag then
    (projection (value "feed_forward_proj")).map fun (activation, gated) =>
      [("dense_act_fn", .str activation), ("is_gated_act", .bool gated)] ++
        (if value "num_decoder_layers" matches .null then [("num_decoder_layers", value "num_layers")] else [])
  else if k.tag == Family.bart.tag || k.tag == Family.marian.tag then
    .ok ([("num_hidden_layers", value "encoder_layers")] ++
      (if k.tag == Family.marian.tag && !(value "decoder_vocab_size").truthy then
        [("decoder_vocab_size", value "vocab_size")] else []))
  else .ok []

def numberTypes : List String :=
  ["float32", "float", "float64", "double", "float16", "half", "bfloat16", "uint8", "uint16", "uint32", "uint64",
    "int8", "int16", "short", "int32", "int", "int64", "long", "bool", "complex32", "chalf", "complex64", "cfloat",
    "complex128", "cdouble", "float8_e4m3fn", "float8_e4m3fnuz", "float8_e5m2", "float8_e5m2fnuz", "float8_e8m0fnu",
    "float4_e2m1fn_x2", "quint8", "qint8", "qint32", "quint4x2", "quint2x4"]

/-- Checks the name of the type of numbers, for which there are two attributes. -/
def checkNumberType (given : Entries String Json) : Except Failure Unit :=
  let value (name : String) : Json := (Entries.get? name given).getD .null
  match (if value "dtype" matches .null then value "torch_dtype" else value "dtype") with
  | .str name =>
    if numberTypes.contains name then .ok ()
    else .error ⟨.missingAttribute, "module 'torch' has no attribute " ++ Text.quoted name⟩
  | _ => .ok ()

/-- Checks the names that cannot be given: the configuration itself, before anything else, and an attribute
that follows from others, at the end. -/
def checkSelf (k : ConfigKind) (given : Entries String Json) : Except Failure Unit :=
  if Entries.has "self" given then
    .error (.wrongType (k.name ++ ".__init__() got multiple values for argument 'self'"))
  else .ok ()

def checkFollowing (k : ConfigKind) (given : Entries String Json) : Except Failure Unit :=
  if Entries.has "use_return_dict" given then
    .error ⟨.missingAttribute, "property 'use_return_dict' of '" ++ k.name ++ "' object has no setter"⟩
  else .ok ()

def isLabelName (name : String) : Bool := name == "id2label" || name == "num_labels"

/-- Builds a configuration: declared attributes first, then those it derives, then what was given beyond,
under whatever name. -/
def build (k : ConfigKind) (given : Entries String Json) : Except Failure Configuration := do
  checkSelf k given
  let declared := Entries.ofPairs (ConfigKind.common ++ k.defaults ++
    given.filter fun p => Entries.has p.1 ConfigKind.common || Entries.has p.1 k.defaults)
  let derivedPairs ← derived k declared
  let value (name : String) : Json := (Entries.get? name declared).getD .null
  checkTable "label2id" (value "label2id")
  checkTable "id2label" ((Entries.get? "id2label" given).getD .null)
  checkProblem (value "problem_type")
  checkNumberType given
  let labels ← labelsOf (Entries.ofPairs (k.defaults ++ given))
  checkFollowing k given
  let beyond := (given.filter fun p =>
    !(Entries.has p.1 ConfigKind.common || Entries.has p.1 k.defaults)).map
      fun p => (k.attributeName p.1, p.2)
  pure ⟨k, (Entries.ofPairs ([("model_type", .str k.tag)] ++ declared ++ derivedPairs ++ beyond)).filter
    fun p => !isLabelName p.1, labels⟩

def prunedHeads : Json → Except Failure (Entries Int Json)
  | .null => .ok []
  | .obj fields => readTable fields
  | v => .error ⟨.missingAttribute, "'" ++ v.kindName ++ "' object has no attribute 'items'"⟩

def withPrunedHeads (c : Configuration) (heads : Entries Int Json) : Configuration :=
  { c with attributes :=
      Entries.put "pruned_heads" (.obj (heads.map fun (layer, v) => (toString layer, v))) c.attributes }

def ofObject (k : ConfigKind) (given : Entries String Json) : Except Failure Configuration := do
  let c ← build k given
  let heads ← prunedHeads ((Entries.get? "pruned_heads" given).getD .null)
  pure (c.withPrunedHeads heads)

/-- Numbered labels cover every id below their number. -/
theorem uncovered_numberedLabels (count : Nat) :
    LabelTable.uncovered (numberedLabels count) count = [] := by
  rw [LabelTable.uncovered_eq_nil_iff]
  intro i hi
  simp only [Entries.keys, numberedLabels, List.map_map, List.mem_map, List.mem_range]
  exact ⟨i, hi, rfl⟩

end Configuration

end SequenceClassification
