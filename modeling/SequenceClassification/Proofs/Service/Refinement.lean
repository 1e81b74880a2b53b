import SequenceClassification.Proofs.Decoding.FiniteLabels
import SequenceClassification.Proofs.Json.Limits
import SequenceClassification.Proofs.Service.Understanding

/-!
The service answers what the model says. The labels of finite logits have entries with the same fields, if
the texts of the table are strings. Main statement: a valid body is answered with the labels of the model or
with its failure, an invalid one is refused without the model, and so is one beyond the limits of the reader.
-/
namespace SequenceClassification.Service

/-! ### Entries -/

theorem exists_mapM_eq_some {α β γ : Type} {f : α → Option β} {g : β → γ} {k : α → γ} {xs : List α}
    (h : ∀ x ∈ xs, ∃ b, f x = some b ∧ g b = k x) : ∃ bs, xs.mapM f = some bs ∧ bs.map g = xs.map k := by
  induction xs with
  | nil => exact ⟨[], rfl, rfl⟩
  | cons x xs ih =>
    obtain ⟨b, hb, hvalue⟩ := h x (List.mem_cons_self ..)
    obtain ⟨bs, hbs, hvalues⟩ := ih fun x hx => h x (List.mem_cons_of_mem _ hx)
    exact ⟨b :: bs, by simp [List.mapM_cons, hb, hbs], by rw [List.map_cons, List.map_cons, hvalue, hvalues]⟩

def TextLabels (table : LabelTable) : Prop := ∀ id text, Entries.get? id table = some text → ∃ s, text = .str s

theorem exists_entry {table : LabelTable} (htable : TextLabels table) {i : ℕ} {l : Label Float}
    (h : Facade.Describes table i l) :
    ∃ e, Entry.ofLabel? l = some e ∧ e.record .float = l.record .float := by
  obtain ⟨s, htext⟩ := htable l.id l.text h.text
  exact Entry.exists_ofLabel? htext h.finite

/-! ### Answers -/

/-- The answer to a failure of the model: the message of one of the pipeline's own, and of another nothing. -/
def Reports (e : Failure) (answer : Response) : Prop :=
  e.isOwn = true ∧ answer = ⟨500, .detail e.message⟩ ∨ e.isOwn = false ∧ answer = broken

/-- The answer to a query is what the model says: its labels field by field, one for each text or a list for
each text in the order of the texts, or its failure. -/
def Conveys (m : Facade CodePoints) : Query → Response → Prop
  | .single texts, answer =>
    (∃ ls entries, m.predict texts = .ok ls ∧ answer = ⟨200, .labels entries⟩ ∧
      entries.map (Entry.record .float) = ls.map (Label.record .float) ∧
      ls.length = texts.length ∧ ∀ (i : ℕ) l, ls[i]? = some l → l.sentence = i) ∨
    ∃ e, m.predict texts = .error e ∧ Reports e answer
  | .multi texts threshold, answer =>
    (∃ lists entries, m.predictMulti texts (.float threshold) = .ok lists ∧
      answer = ⟨200, .labelLists entries⟩ ∧
      entries.map (List.map (Entry.record .float)) = lists.map (List.map (Label.record .float)) ∧
      lists.length = texts.length ∧
      ∀ (i : ℕ) ls, lists[i]? = some ls → ∀ l ∈ ls, l.sentence = i) ∨
    ∃ e, m.predictMulti texts (.float threshold) = .error e ∧ Reports e answer

theorem reports_ofFailure (e : Failure) : Reports e (ofFailure e) := by
  unfold ofFailure
  split
  · rename_i hown
    exact .inl ⟨hown, rfl⟩
  · rename_i hown
    exact .inr ⟨by simpa using hown, rfl⟩

section
variable {s : Service} (htable : TextLabels s.model.labels) (hm : s.model.GivesFinite)
include htable hm

theorem conveys_single {texts : List CodePoints} (hne : texts ≠ []) :
    Conveys s.model (.single texts) (s.performQuery (.single texts)) := by
  cases hpredict : s.model.predict texts with
  | error e =>
    have hfailure : s.performQuery (.single texts) = ofFailure e := by simp only [performQuery, hpredict]
    exact .inr ⟨e, hpredict, hfailure ▸ reports_ofFailure e⟩
  | ok ls =>
    obtain ⟨hlength, hlabels⟩ := Facade.describes_of_predict hne hm hpredict
    obtain ⟨entries, hentries, hrecords⟩ := exists_mapM_eq_some
      (g := Entry.record .float) (k := Label.record .float) fun l hl => by
        obtain ⟨i, hi⟩ := List.getElem?_of_mem hl
        exact exists_entry htable (hlabels i l hi)
    exact .inl ⟨ls, entries, hpredict, performQuery_single hpredict hentries, hrecords, hlength,
      fun i l hl => (hlabels i l hl).sentence⟩

theorem conveys_multi {texts : List CodePoints} (hne : texts ≠ []) (x : Float) :
    Conveys s.model (.multi texts x) (s.performQuery (.multi texts x)) := by
  cases hpredict : s.model.predictMulti texts (.float x) with
  | error e =>
    have hfailure : s.performQuery (.multi texts x) = ofFailure e := by simp only [performQuery, hpredict]
    exact .inr ⟨e, hpredict, hfailure ▸ reports_ofFailure e⟩
  | ok lists =>
    obtain ⟨hlength, hlabels⟩ := Facade.describes_of_predictMulti hne hm hpredict
    obtain ⟨entries, hentries, hrecords⟩ := exists_mapM_eq_some
      (g := List.map (Entry.record .float)) (k := List.map (Label.record .float)) fun ls hls => by
        obtain ⟨i, hi⟩ := List.getElem?_of_mem hls
        exact exists_mapM_eq_some fun l hl => exists_entry htable (hlabels i ls hi l hl)
    exact .inl ⟨lists, entries, hpredict, performQuery_multi hpredict hentries, hrecords, hlength,
      fun i ls hls l hl => (hlabels i ls hls l hl).sentence⟩

end

/-- A request that posts a text to the route of a mode. -/
def post (mode : Mode) (body : String) : Request :=
  ⟨"POST", (Route.labels mode).path, some "application/json", body⟩

theorem posted_post (mode : Mode) (body : String) : Posted mode (post mode body) where
  verb := by
    change "POST".toUpper = "POST"
    decide +kernel
  route := by
    change Route.ofPath? (String.ofList ((Route.labels mode).path.toList.takeWhile fun c => c != '?' && c != '#')) = _
    cases mode <;> decide +kernel
  type := by
    change isJsonType (some "application/json") = true
    decide +kernel

/-- A service whose model tells good reviews from bad ones, always in the same way. -/
def reviews : Service :=
  ⟨"cpu", .bert, ⟨[(0, .str "NEGATIVE"), (1, .str "POSITIVE")], fun texts => .ok (texts.map fun _ => [0, 1])⟩⟩

theorem textLabels_reviews : TextLabels reviews.model.labels := by
  intro id text h
  change Entries.get? id [((0 : Int), Json.str "NEGATIVE"), (1, .str "POSITIVE")] = some text at h
  simp only [Entries.get?] at h
  split at h
  · exact ⟨_, (Option.some.inj h).symm⟩
  · split at h
    · exact ⟨_, (Option.some.inj h).symm⟩
    · cases h

theorem givesFinite_reviews : reviews.model.GivesFinite where
  rows := by
    rintro texts logits h
    obtain rfl := Except.ok.inj h
    exact List.length_map ..
  finite := by
    rintro texts logits h row hrow x hx
    have hzero : (0 : Float32).isFinite = true := by decide +kernel
    have hone : (1 : Float32).isFinite = true := by decide +kernel
    obtain rfl := Except.ok.inj h
    obtain ⟨text, -, rfl⟩ := List.mem_map.1 hrow
    rcases List.mem_cons.1 hx with rfl | hx
    · exact hzero
    · obtain rfl := List.mem_singleton.1 hx
      exact hone

def roomy : Levels := ⟨950, 940⟩

def letter : CodePoints := .ofString "a"

def letterBody : Wire := .obj [(.ofString "texts", .arr [.str letter])]

theorem reading_letter : reading roomy (post .single "\x7b\"texts\":[\"a\"]\x7d") = .ok letterBody := by
  have hchars : dropMark (post .single "\x7b\"texts\":[\"a\"]\x7d").body.toList =
      ['\x7b', '"', 't', 'e', 'x', 't', 's', '"', ':', '[', '"', 'a', '"', ']', '\x7d'] := rfl
  rw [reading, hchars]
  rfl

theorem hasTexts_letter {v : Wire} (h : v.field? "texts" = some (.arr [.str letter])) : HasTexts v [letter] :=
  ⟨List.cons_ne_nil _ _, h⟩

theorem exists_predict_reviews : ∃ ls, reviews.model.predict [letter] = .ok ls := by
  have hseparate : reviews.model.Separate (fun _ => [0, 1]) 2 := ⟨fun _ _ => rfl, fun _ => rfl⟩
  have hcovers : reviews.model.labels.Covers 2 := by
    intro i hi
    have hcases : i = 0 ∨ i = 1 := by omega
    rcases hcases with rfl | rfl <;> simp [reviews, Entries.keys]
  exact Facade.exists_predict_eq_ok hseparate fun _ _ =>
    Facade.hasLabel_of_covers hcovers (by simp) (by simp)

/-- A service whose model has no classes. -/
def wordless : Service := ⟨"cpu", .bert, ⟨[], fun texts => .ok (texts.map fun _ => [])⟩⟩

theorem answer_oversized (s : Service) :
    s.answer roomy (post .single (Json.oversized Json.maxIntegerDigits).write) = unreadable := by
  have hposted := posted_post .single (Json.oversized Json.maxIntegerDigits).write
  obtain ⟨left, hread⟩ := Json.readWire_oversized (le_refl Json.maxIntegerDigits) 949
  have hmark : dropMark (Json.oversized Json.maxIntegerDigits).write.toList =
      (Json.oversized Json.maxIntegerDigits).write.toList := by
    rw [Json.toList_write_oversized]
    rfl
  have hreading : reading roomy (post .single (Json.oversized Json.maxIntegerDigits).write) =
      .error ⟨.tooManyDigits (Json.maxIntegerDigits + 1), left⟩ := by
    change Json.readWire 950 (dropMark (Json.oversized Json.maxIntegerDigits).write.toList) = _
    rw [hmark, hread]
  rw [answer_of_posted hposted, understandQuery, readBody_of_excessive hposted.type hreading rfl]

theorem answer_wordless :
    wordless.answer roomy (post .single "\x7b\"texts\":[\"a\"]\x7d") = broken := by
  have hposted := posted_post .single "\x7b\"texts\":[\"a\"]\x7d"
  have hasks : Asks .single letterBody (.single [letter]) := .single (hasTexts_letter rfl)
  rw [answer_of_posted hposted, understandQuery, readBody_of_reading hposted.type reading_letter]
  simp only [ofBody_present_eq_ok_iff.2 hasks]
  rfl

/-- The value of a body with a threshold that is below every number. -/
def boundlessBody : Wire :=
  .obj [(.ofString "texts", .arr [.str letter]), (.ofString "threshold", .float (-1 / 0))]

theorem reading_boundless :
    reading roomy (post .multi "\x7b\"texts\":[\"a\"],\"threshold\":-Infinity\x7d") = .ok boundlessBody := by
  have hchars : dropMark (post .multi "\x7b\"texts\":[\"a\"],\"threshold\":-Infinity\x7d").body.toList =
      ['\x7b', '"', 't', 'e', 'x', 't', 's', '"', ':', '[', '"', 'a', '"', ']', ',', '"', 't', 'h', 'r', 'e', 's',
        'h', 'o', 'l', 'd', '"', ':', '-', 'I', 'n', 'f', 'i', 'n', 'i', 't', 'y', '\x7d'] := rfl
  rw [reading, hchars]
  rfl

theorem ofBody_boundless : Query.ofBody .multi (present boundlessBody) =
    .error [⟨.belowZero, Query.thresholdPath, .float (-1 / 0)⟩] := by
  have hbelow : ¬ (0 : Float) ≤ -1 / 0 := by decide +kernel
  have hthreshold : Query.threshold boundlessBody = .error ⟨.belowZero, Query.thresholdPath, .float (-1 / 0)⟩ := by
    have hfield : boundlessBody.field? "threshold" = some (.float (-1 / 0)) := rfl
    simp only [Query.threshold, hfield, Query.asNumber, if_neg hbelow]
  change Query.ofObject .multi boundlessBody = _
  simp only [Query.ofObject, hthreshold]
  rfl

theorem answer_boundless (s : Service) :
    s.answer roomy (post .multi "\x7b\"texts\":[\"a\"],\"threshold\":-Infinity\x7d") = broken := by
  have hposted := posted_post .multi "\x7b\"texts\":[\"a\"],\"threshold\":-Infinity\x7d"
  have hinfinite : ¬ (-1 / 0 : Float).isFinite = true := by decide +kernel
  rw [answer_of_posted hposted, understandQuery, readBody_of_reading hposted.type reading_boundless]
  simp only [ofBody_boundless]
  simp [refused, Complaint.isWritable, Wire.isWritable, Wire.isPlain, hinfinite, Except.mapError]

end SequenceClassification.Service
