import SequenceClassification.Family
import SequenceClassification.Resource

/-!
Settings of a pipeline: the model family, the resources it is built from, and how texts are normalised
before they are cut into tokens.
-/
namespace SequenceClassification

/-- Flags of text normalisation. A flag that is not given is left to the family. -/
structure TextFlags where
  lowerCase : Bool := false
  stripAccents : Option Bool := none
  addPrefixSpace : Option Bool := none
deriving Repr, DecidableEq, Inhabited

structure Limits where
  maxLength : Nat := 128
  strategy : String := "longest_first"
  stride : Nat := 0
deriving Repr, DecidableEq, Inhabited

def classificationLimits : Limits := {}

structure Settings where
  family : Family
  weights : Resource
  config : Resource
  vocabulary : Resource
  merges : Option Resource := none
  flags : TextFlags := { lowerCase := true }
  device : String := "cpu"
deriving Repr, DecidableEq, Inhabited

namespace Settings

def defaultRepository : String := "distilbert/distilbert-base-uncased-finetuned-sst-2-english"

def defaultFile (name : String) : Resource := .remotely { repository := defaultRepository, file := name }

def standard : Settings where
  family := .distilBert
  weights := defaultFile "model.safetensors"
  config := defaultFile "config.json"
  vocabulary := defaultFile "vocab.txt"

/-- The resources in the order in which they are resolved. -/
def resources (s : Settings) : List Resource := [s.config, s.vocabulary, s.weights] ++ s.merges.toList

def remoteFiles (s : Settings) : List RemoteFile := s.resources.filterMap Resource.remote?

end Settings

end SequenceClassification
