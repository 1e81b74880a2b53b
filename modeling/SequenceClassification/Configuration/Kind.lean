import SequenceClassification.Family
import SequenceClassification.Json.Value

/-!
Kinds of configuration. A kind has a tag, the attributes it declares with their default values, and other
names under which attributes can be written and read.
-/
namespace SequenceClassification

structure ConfigKind where
  name : String
  tag : String
  defaults : Entries String Json
  aliases : Entries String String := []
deriving Inhabited

namespace ConfigKind

def attributeName (k : ConfigKind) (name : String) : String := (Entries.get? name k.aliases).getD name

def common : Entries String Json :=
  [("output_hidden_states", .bool false), ("output_attentions", .bool false), ("return_dict", .bool true),
   ("torchscript", .bool false), ("pruned_heads", .obj []), ("tie_word_embeddings", .bool true),
   ("chunk_size_feed_forward", .int 0), ("is_encoder_decoder", .bool false), ("is_decoder", .bool false),
   ("cross_attention_hidden_size", .null), ("add_cross_attention", .bool false),
   ("tie_encoder_decoder", .bool false), ("architectures", .null), ("finetuning_task", .null),
   ("label2id", .null), ("task_specific_params", .null), ("problem_type", .null),
   ("tokenizer_class", .null), ("prefix", .null), ("bos_token_id", .null), ("pad_token_id", .null),
   ("eos_token_id", .null), ("sep_token_id", .null), ("decoder_start_token_id", .null),
   ("transformers_version", .null)]

def encoder (vocabulary hidden layers heads inner : Int) (activation : String) : Entries String Json :=
  [("vocab_size", .int vocabulary), ("hidden_size", .int hidden), ("num_hidden_layers", .int layers),
   ("num_attention_heads", .int heads), ("hidden_act", .str activation), ("intermediate_size", .int inner),
   ("hidden_dropout_prob", .float 0.1), ("attention_probs_dropout_prob", .float 0.1),
   ("max_position_embeddings", .int 512), ("type_vocab_size", .int 2), ("initializer_range", .float 0.02),
   ("layer_norm_eps", .float 1e-12), ("position_embedding_type", .str "absolute")]

def tokenIds (bos eos pad : Json) : Entries String Json :=
  [("bos_token_id", bos), ("eos_token_id", eos), ("pad_token_id", pad)]

def twoHalves (vocabulary : Int) : Entries String Json :=
  [("vocab_size", .int vocabulary), ("max_position_embeddings", .int 1024), ("d_model", .int 1024),
   ("encoder_ffn_dim", .int 4096), ("encoder_layers", .int 12), ("encoder_attention_heads", .int 16),
   ("decoder_ffn_dim", .int 4096), ("decoder_layers", .int 12), ("decoder_attention_heads", .int 16),
   ("dropout", .float 0.1), ("attention_dropout", .float 0), ("activation_dropout", .float 0),
   ("activation_function", .str "gelu"), ("init_std", .float 0.02), ("encoder_layerdrop", .float 0),
   ("decoder_layerdrop", .float 0), ("use_cache", .bool true), ("scale_embedding", .bool false),
   ("is_encoder_decoder", .bool true)]

def ofFamily : Family → ConfigKind
  | .bert => ⟨"BertConfig", "bert", encoder 30522 768 12 12 3072 "gelu" ++
      [("pad_token_id", .int 0), ("use_cache", .bool true), ("classifier_dropout", .null)], []⟩
  | .electra => ⟨"ElectraConfig", "electra", encoder 30522 256 12 4 1024 "gelu" ++
      [("embedding_size", .int 128), ("summary_type", .str "first"), ("summary_use_proj", .bool true),
       ("summary_activation", .str "gelu"), ("summary_last_dropout", .float 0.1), ("pad_token_id", .int 0),
       ("use_cache", .bool true), ("classifier_dropout", .null)], []⟩
  | .roberta => ⟨"RobertaConfig", "roberta", encoder 50265 768 12 12 3072 "gelu" ++
      tokenIds (.int 0) (.int 2) (.int 1) ++ [("use_cache", .bool true), ("classifier_dropout", .null)], []⟩
  | .xlmRoberta => ⟨"XLMRobertaConfig", "xlm-roberta", encoder 30522 768 12 12 3072 "gelu" ++
      tokenIds (.int 0) (.int 2) (.int 1) ++ [("use_cache", .bool true), ("classifier_dropout", .null)], []⟩
  | .albert => ⟨"AlbertConfig", "albert", Entries.ofPairs (encoder 30000 4096 12 64 16384 "gelu_new" ++
      tokenIds (.int 2) (.int 3) (.int 0) ++
      [("hidden_dropout_prob", .int 0), ("attention_probs_dropout_prob", .int 0),
       ("embedding_size", .int 128), ("num_hidden_groups", .int 1), ("inner_group_num", .int 1),
       ("classifier_dropout_prob", .float 0.1)]), []⟩
  | .distilBert => ⟨"DistilBertConfig", "distilbert",
      [("vocab_size", .int 30522), ("max_position_embeddings", .int 512),
       ("sinusoidal_pos_embds", .bool false), ("n_layers", .int 6), ("n_heads", .int 12), ("dim", .int 768),
       ("hidden_dim", .int 3072), ("dropout", .float 0.1), ("attention_dropout", .float 0.1),
       ("activation", .str "gelu"), ("initializer_range", .float 0.02), ("qa_dropout", .float 0.1),
       ("seq_classif_dropout", .float 0.2), ("pad_token_id", .int 0)],
      [("hidden_size", "dim"), ("num_attention_heads", "n_heads"), ("num_hidden_layers", "n_layers")]⟩
  | .bart => ⟨"BartConfig", "bart", twoHalves 50265 ++ tokenIds (.int 0) (.int 2) (.int 1) ++
      [("num_labels", .int 3), ("classifier_dropout", .float 0), ("decoder_start_token_id", .int 2),
       ("forced_eos_token_id", .int 2)],
      [("num_attention_heads", "encoder_attention_heads"), ("hidden_size", "d_model")]⟩
  | .marian => ⟨"MarianConfig", "marian", twoHalves 58101 ++ [("eos_token_id", .int 0),
       ("pad_token_id", .int 58100), ("decoder_start_token_id", .int 58100), ("forced_eos_token_id", .int 0),
       ("share_encoder_decoder_embeddings", .bool true), ("decoder_vocab_size", .null)],
      [("num_attention_heads", "encoder_attention_heads"), ("hidden_size", "d_model")]⟩
  | .t5 => ⟨"T5Config", "t5",
      [("vocab_size", .int 32128), ("d_model", .int 512), ("d_kv", .int 64), ("d_ff", .int 2048),
       ("num_layers", .int 6), ("num_decoder_layers", .null), ("num_heads", .int 8),
       ("relative_attention_num_buckets", .int 32), ("relative_attention_max_distance", .int 128),
       ("dropout_rate", .float 0.1), ("classifier_dropout", .float 0), ("layer_norm_epsilon", .float 1e-6),
       ("initializer_factor", .float 1), ("feed_forward_proj", .str "relu"), ("use_cache", .bool true),
       ("is_encoder_decoder", .bool true), ("pad_token_id", .int 0), ("eos_token_id", .int 1)],
      [("hidden_size", "d_model"), ("num_attention_heads", "num_heads"), ("num_hidden_layers", "num_layers"),
       ("head_dim", "d_kv")]⟩

/-- Kinds of configuration that belong to no family here. -/
def others : List ConfigKind :=
  [("GPT2Config", "gpt2"), ("XLMConfig", "xlm"), ("DebertaConfig", "deberta"),
   ("DebertaV2Config", "deberta-v2"), ("CamembertConfig", "camembert"), ("MBartConfig", "mbart"),
   ("MPNetConfig", "mpnet"), ("XLNetConfig", "xlnet"), ("LongformerConfig", "longformer"),
   ("FunnelConfig", "funnel"), ("MobileBertConfig", "mobilebert"), ("SqueezeBertConfig", "squeezebert"),
   ("MT5Config", "mt5"), ("PegasusConfig", "pegasus"), ("LlamaConfig", "llama"), ("OPTConfig", "opt"),
   ("GPTNeoConfig", "gpt_neo"), ("XLMRobertaXLConfig", "xlm-roberta-xl"), ("BigBirdConfig", "big_bird"),
   ("ConvBertConfig", "convbert"), ("FlaubertConfig", "flaubert"), ("LayoutLMConfig", "layoutlm"),
   ("NystromformerConfig", "nystromformer"), ("RemBertConfig", "rembert"), ("RoFormerConfig", "roformer"),
   ("PretrainedConfig", "")].map
    fun (name, tag) => ⟨name, tag, [], []⟩

def named? (name : String) : Option ConfigKind :=
  (Family.all.map ofFamily ++ others).find? fun k => k.name == name

/-- The kind of a family has the tag of the family. -/
theorem tag_ofFamily (f : Family) : (ofFamily f).tag = f.tag := by cases f <;> rfl

end ConfigKind

end SequenceClassification
