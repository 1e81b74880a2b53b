import SequenceClassification.Main
import SequenceClassification.Service.Basic
import SequenceClassification.Proofs.Weights.Overwriting
import SequenceClassification.Proofs.Decoding.Selection
import SequenceClassification.Proofs.Evaluation.Scoring
import SequenceClassification.Proofs.Evaluation.EntryOrder
import SequenceClassification.Proofs.Pipeline.Preparation
import SequenceClassification.Proofs.Score.Widening
import SequenceClassification.Proofs.Decoding.Boundaries
import SequenceClassification.Proofs.Weights.History
import SequenceClassification.Proofs.Weights.Marks
import SequenceClassification.Proofs.Weights.Wrapping
import SequenceClassification.Proofs.Weights.Extras
import SequenceClassification.Proofs.Weights.StrayFailures
import SequenceClassification.Proofs.Pipeline.FirstFailure
import SequenceClassification.Proofs.Pipeline.ModeDiscipline
import SequenceClassification.Proofs.Configuration.StrayFailures
import SequenceClassification.Proofs.Tokenizer.StrayFaults
import SequenceClassification.Proofs.Service.Refinement
import SequenceClassification.Proofs.Decoding.Thresholds
import SequenceClassification.Proofs.Decoding.SingleLabel
import SequenceClassification.Proofs.Evaluation.ConfusionRanking
import SequenceClassification.Proofs.Decimal.ExactValues
import SequenceClassification.Proofs.Decimal.Numerals
import SequenceClassification.Proofs.Evaluation.Spellings
import SequenceClassification.Proofs.Evaluation.BatchSizes
import SequenceClassification.Proofs.Evaluation.KnownClasses
import SequenceClassification.Proofs.Pipeline.PadTokens
import SequenceClassification.Proofs.Tokenizer.TokenIds
import SequenceClassification.Proofs.Classifier.Construction
import SequenceClassification.Proofs.Pipeline.Unpadding
import SequenceClassification.Proofs.Tokenizer.LowerCasing
