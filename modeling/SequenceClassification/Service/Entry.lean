import SequenceClassification.Label
import SequenceClassification.Service.Query

/-!
The entries of an answer. A label is not written into an answer itself: its record is taken, the fields by
their names, and an entry is read off the record, whose text has to be a string. What is written is the
record of the entry. Main statement: reading an entry off the record of a label and taking its
record gives the same record, so nothing is lost.
-/
namespace SequenceClassification.Service

structure Entry where
  text : String
  score : Float
  id : Int
  sentence : Int
deriving Inhabited

namespace Entry

def record (write : Float → Json) (e : Entry) : Entries String Json :=
  [("text", .str e.text), ("score", write e.score), ("id", .int e.id), ("sentence", .int e.sentence)]

def ofRecord? (record : Entries String Json) : Option Entry :=
  match Entries.get? "text" record, Entries.get? "score" record, Entries.get? "id" record,
    Entries.get? "sentence" record with
  | some (.str text), some score, some (.int id), some (.int sentence) =>
    match Query.asNumber (.ofJson score) with
    | .ok x => some ⟨text, x, id, sentence⟩
    | .error _ => none
  | _, _, _, _ => none

/-- Whether an entry can be written: infinities and what is no number have no JSON form. -/
def isWritable (e : Entry) : Bool := e.score.isFinite

def ofLabel? (l : Label Float) : Option Entry := (ofRecord? (l.record .float)).filter isWritable

/-- A label whose text is a string and whose score is finite has an entry, with the same fields. -/
theorem exists_ofLabel? {l : Label Float} {text : String} (htext : l.text = .str text)
    (hscore : l.score.isFinite = true) :
    ∃ e, ofLabel? l = some e ∧ e.record .float = l.record .float := by
  obtain ⟨_, score, id, sentence⟩ := l
  subst htext
  refine ⟨⟨text, score, id, sentence⟩, ?_, rfl⟩
  have hrecord : ofRecord? (Label.record .float ⟨.str text, score, id, sentence⟩) =
      some ⟨text, score, id, sentence⟩ := rfl
  rw [ofLabel?, hrecord]
  exact if_pos hscore

end Entry

end SequenceClassification.Service
