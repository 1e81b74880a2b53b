import SequenceClassification.Evaluation.Script
import SequenceClassification.Proofs.Evaluation.Batching
import SequenceClassification.Proofs.Evaluation.GoldTexts
import SequenceClassification.Proofs.Table.Kinds
import SequenceClassification.Proofs.Table.Written
import SequenceClassification.Proofs.Text.Utf8

/-!
What the evaluation scores. Between the table and the model stand the kinds of the two columns, the cells
that count as missing, and the texts of digits that are class ids. Main statement: where these leave the
cells as they are written, the model is handed the texts of the table row by row, and the gold id of each
row is the class id of its label.
-/
namespace SequenceClassification.Evaluation

/-- A row of a labelled table, and the class that its label names. -/
structure LabelledText where
  text : String
  label : String
  id : Int
deriving Repr, DecidableEq

namespace LabelledText

def fields (row : LabelledText) : List (List Char) := [row.text.toList, row.label.toList]

/-- No cell is cut short: only a null character does that. -/
def Uncut (row : LabelledText) : Prop := '\x00' ∉ row.text.toList ∧ '\x00' ∉ row.label.toList

instance (row : LabelledText) : Decidable row.Uncut := by
  unfold Uncut
  infer_instance

end LabelledText

def labelledRecords (rows : List LabelledText) : List (List (List Char)) :=
  ["text".toList, "label".toList] :: rows.map LabelledText.fields

/-- A labelled table as it is written: its labels are texts of a label table without double ones. -/
structure LabelledTable (table : LabelTable) (rows : List LabelledText) (csv : List Char) : Prop where
  written : Table.TableText (labelledRecords rows) csv
  uncut : ∀ row ∈ rows, row.Uncut
  distinct : table.DistinctTexts
  named : ∀ row ∈ rows, Entries.get? row.id table = some (.str row.label)

/-- A value of the label column stands for a class: a text of digits and a value that is no text do so by
themselves, any other text by the label table. -/
def StandsFor (id : Int) : Json → Prop
  | .str s => DigitsAgree id s
  | v => idOfValue v = .ok id

namespace Sample

theorem visible_of_not_mem {field : List Char} (h : '\x00' ∉ field) : visible field = field := by
  induction field with
  | nil => rfl
  | cons c rest ih =>
    rw [List.mem_cons, not_or] at h
    have hc : (c != '\x00') = true := bne_iff_ne.2 (Ne.symm h.1)
    rw [visible, List.takeWhile_cons, if_pos hc]
    exact congrArg (c :: ·) (ih h.2)

theorem complete_map_some_zip {ts ls : List Json} (h : ts.length = ls.length) :
    complete (ts.map some) (ls.map some) = ts.zip ls := by
  have hrows := complete_map_some (ts.zip ls)
  have hts : (ts.zip ls).map Prod.fst = ts := List.map_fst_zip (by omega)
  have hls : (ts.zip ls).map Prod.snd = ls := List.map_snd_zip (by omega)
  have hsome : (ts.zip ls).map (fun r => some r.1) = ((ts.zip ls).map Prod.fst).map some ∧
      (ts.zip ls).map (fun r => some r.2) = ((ts.zip ls).map Prod.snd).map some := by
    simp only [List.map_map]
    exact ⟨rfl, rfl⟩
  rwa [hsome.1, hsome.2, hts, hls] at hrows

theorem length_complete_le (ts ls : List (Option Json)) : (complete ts ls).length ≤ ts.length := by
  fun_induction complete ts ls <;> simp <;> omega

/-- Only where all values are there no row is dropped. -/
theorem exists_of_length_complete {ts ls : List (Option Json)} (hlength : ts.length = ls.length)
    (h : (complete ts ls).length = ts.length) : ∃ tv lv : List Json, ts = tv.map some ∧ ls = lv.map some := by
  fun_induction complete ts ls with
  | case1 t ts l ls ih =>
    simp only [List.length_cons, Nat.add_right_cancel_iff] at hlength h
    obtain ⟨tv, lv, rfl, rfl⟩ := ih hlength h
    exact ⟨t :: tv, l :: lv, rfl, rfl⟩
  | case2 t ts l ls _ ih =>
    have hle := length_complete_le ts ls
    simp only [List.length_cons] at h
    omega
  | case3 ts ls _ hcons =>
    cases ts with
    | nil =>
      cases List.length_eq_zero_iff.1 hlength.symm
      exact ⟨[], [], rfl, rfl⟩
    | cons t ts =>
      cases ls with
      | nil => cases hlength
      | cons l ls => exact absurd rfl (hcons t ts l ls rfl)

variable {rows : List LabelledText}

theorem cellsAt_fields (huncut : ∀ row ∈ rows, row.Uncut) :
    cellsAt (rows.map LabelledText.fields) 0 0 = rows.map (·.text.toList) ∧
      cellsAt (rows.map LabelledText.fields) 0 1 = rows.map (·.label.toList) := by
  simp only [cellsAt, List.map_map]
  exact ⟨List.map_congr_left fun row hrow => visible_of_not_mem (huncut row hrow).1,
    List.map_congr_left fun row hrow => visible_of_not_mem (huncut row hrow).2⟩

/-- Of a labelled table the rows are kept in which both columns have a value. -/
theorem ofRecords_labelledRecords (path : String) (huncut : ∀ row ∈ rows, row.Uncut) :
    ofRecords path (labelledRecords rows) = .ok ⟨["text", "label"],
      complete (Table.columnValues (Table.rowsTogether 2) (rows.map (·.text.toList)))
        (Table.columnValues (Table.rowsTogether 2) (rows.map (·.label.toList)))⟩ := by
  obtain ⟨htexts, hlabels⟩ := cellsAt_fields huncut
  have hwidth : ((rows.map LabelledText.fields).headD ["text".toList, "label".toList]).length = 2 := by
    cases rows <;> rfl
  have hindex : 2 - ["text".toList, "label".toList].length = 0 := rfl
  have hcolumns : Table.columnNames (["text".toList, "label".toList].map fun field =>
      String.ofList (visible field)) = ["text", "label"] := by decide
  have hpresent : requiredColumns.filter
      (fun name => !((["text", "label"] : List String).contains name)) = [] := by decide
  rw [labelledRecords, ofRecords]
  simp only [hcolumns, hwidth, hindex, hpresent]
  rw [if_neg (by decide), show ["text", "label"].idxOf "text" = 0 by decide,
    show ["text", "label"].idxOf "label" = 1 by decide, htexts, hlabels]

theorem dropByteOrderMark_of_tableText {csv : List Char}
    (hcsv : Table.TableText (labelledRecords rows) csv) : dropByteOrderMark csv = csv := by
  rcases Table.head?_tableText hcsv with hhead | ⟨hhead, -⟩
  all_goals
    cases csv with
    | nil => rfl
    | cons c rest =>
      cases hhead
      rfl

/-- The file of a labelled table is read as the kinds of its two columns say. -/
theorem ofFile_labelledTable {disk : Disk} {path : String} {csv : List Char}
    (hfile : disk.find path = .octets (Text.utf8 csv))
    (hcsv : Table.TableText (labelledRecords rows) csv) (huncut : ∀ row ∈ rows, row.Uncut) :
    ofFile disk path = .ok ⟨["text", "label"],
      complete (Table.columnValues (Table.rowsTogether 2) (rows.map (·.text.toList)))
        (Table.columnValues (Table.rowsTogether 2) (rows.map (·.label.toList)))⟩ := by
  have hopen : disk.openFile path = .ok (Text.utf8 csv) := by
    rw [Disk.openFile, hfile]
    rfl
  have hwidth : ∀ r ∈ labelledRecords rows, r.length = 2 := by
    intro r hr
    rcases List.mem_cons.1 hr with rfl | hr
    · rfl
    · obtain ⟨row, -, rfl⟩ := List.mem_map.1 hr
      rfl
  have hrecords : Table.records csv = .ok (labelledRecords rows) :=
    Table.records_of_tableText (Nat.le_refl 2) hcsv hwidth (List.cons_ne_nil _ _)
  simp only [ofFile, hopen, Text.decodeUtf8_utf8, dropByteOrderMark_of_tableText hcsv, hrecords]
  exact ofRecords_labelledRecords path huncut

end Sample

section
variable {table : LabelTable} {rows : List LabelledText}

/-- What a value of the label column stands for is its gold id, given that a text among the values is the
label as it is written. -/
theorem idOfGold_iff_standsFor {index : TextIndex} {id : Int} {label : String}
    (hfind : index.find? label = some id) {v : Json} (htext : ∀ s, v = .str s → s = label) :
    idOfGold index v = .ok id ↔ StandsFor id v := by
  cases v with
  | str s =>
    rw [htext s rfl]
    exact idOfGold_text_iff hfind
  | _ => exact Iff.rfl

/-- The kinds that the two columns are read as leave the texts as they are written, and the labels the
classes that they name, whose ids are in range. -/
structure Faithful (rows : List LabelledText) : Prop where
  texts : ∃ values, Table.ReadsAs (Table.rowsTogether 2) (rows.map (·.text.toList)) values ∧
    values.map Json.inText = rows.map (·.text)
  labels : ∃ values, Table.ReadsAs (Table.rowsTogether 2) (rows.map (·.label.toList)) values ∧
    List.Forall₂ (fun row v => StandsFor row.id v) rows values
  inRange : ∀ row ∈ rows, isClassId row.id = true

/-- The gold ids of a column of labels are their classes exactly if its values stand for them. -/
theorem goldIds_iff_standsFor (htable : table.DistinctTexts)
    (hnamed : ∀ row ∈ rows, Entries.get? row.id table = some (.str row.label)) {values : List Json}
    (hvalues : Table.ReadsAs (Table.rowsTogether 2) (rows.map (·.label.toList)) values) :
    goldIds table values = .ok (rows.map (·.id)) ↔
      List.Forall₂ (fun row v => StandsFor row.id v) rows values ∧
        ∀ row ∈ rows, isClassId row.id = true := by
  have htexts := Table.text_of_readsAs hvalues
  rw [List.forall₂_map_left_iff] at htexts
  have hfind : ∀ row ∈ rows, TextIndex.find? row.label (table.map fun e => (e.2, e.1)) = some row.id :=
    fun row hrow => TextIndex.find?_of_distinct htable (Entries.mem_of_get? (hnamed row hrow))
  have hone : List.Forall₂ (fun row v => idOfGold (table.map fun e => (e.2, e.1)) v = .ok row.id ↔
      StandsFor row.id v) rows values := by
    refine ((List.forall₂_and_left _ _).2 ⟨hfind, htexts⟩).imp fun row v h => ?_
    exact idOfGold_iff_standsFor h.1 fun s hs => by rw [h.2 s hs, String.ofList_toList]
  rw [goldIds_eq_ok_iff (TextIndex.ofTable_of_distinct htable), List.forall₂_map_right_iff,
    List.forall_mem_map]
  refine and_congr_left fun _ => ⟨fun h => ?_, fun h => ?_⟩
  · exact hone.mp (fun row v hiff hgold => hiff.1 hgold) h.flip
  · exact (hone.mp (fun row v hiff hstand => hiff.2 hstand) h).flip

/-- The rows that are read at a path are those of a labelled table, each with its text as it is written
and the class of its label. -/
def ReadsRows (disk : Disk) (path : String) (table : LabelTable) (rows : List LabelledText) : Prop :=
  ∃ sample, Sample.ofFile disk path = .ok sample ∧ Script.texts sample = rows.map (·.text) ∧
    goldIds table sample.labels = .ok (rows.map (·.id))

/-- Of a file with a labelled table the rows are read exactly if the kinds of its columns allow it. -/
theorem readsRows_iff {disk : Disk} {path : String} {csv : List Char}
    (hfile : disk.find path = .octets (Text.utf8 csv)) (htable : LabelledTable table rows csv) :
    ReadsRows disk path table rows ↔ Faithful rows := by
  have hsample := Sample.ofFile_labelledTable hfile htable.written htable.uncut
  constructor
  · rintro ⟨sample, hsample', htexts, hgold⟩
    rw [hsample] at hsample'
    cases hsample'
    have htextsLength := Table.length_columnValues (rows.map (·.text.toList)) (Table.rowsTogether 2)
    have hlabelsLength := Table.length_columnValues (rows.map (·.label.toList)) (Table.rowsTogether 2)
    -- as many texts as rows are left, so no cell of either column was missing
    have hcount := congrArg List.length htexts
    simp only [Script.texts, Sample.texts, List.length_map] at hcount htextsLength hlabelsLength
    obtain ⟨texts, labels, hts, hls⟩ := Sample.exists_of_length_complete
      (htextsLength.trans hlabelsLength.symm) (hcount.trans htextsLength.symm)
    have hlength : texts.length = labels.length := by
      rw [hts, List.length_map] at htextsLength
      rw [hls, List.length_map] at hlabelsLength
      omega
    rw [hts, hls, Sample.complete_map_some_zip hlength] at htexts hgold
    rw [Script.texts, Sample.texts, List.map_fst_zip (by omega)] at htexts
    rw [Sample.labels, List.map_snd_zip (by omega)] at hgold
    have hlabels := Table.columnValues_eq_iff.1 hls
    obtain ⟨hstand, hinRange⟩ := (goldIds_iff_standsFor htable.distinct htable.named hlabels).1 hgold
    exact ⟨⟨texts, Table.columnValues_eq_iff.1 hts, htexts⟩, ⟨labels, hlabels, hstand⟩, hinRange⟩
  · rintro ⟨⟨texts, htexts, hwritten⟩, ⟨labels, hlabels, hstand⟩, hinRange⟩
    have hlength : texts.length = labels.length := by
      rw [← List.length_map (f := Json.inText), hwritten, List.length_map, hstand.length_eq]
    rw [Table.columnValues_eq_iff.2 htexts, Table.columnValues_eq_iff.2 hlabels,
      Sample.complete_map_some_zip hlength] at hsample
    refine ⟨_, hsample, ?_, ?_⟩
    · rw [Script.texts, Sample.texts, List.map_fst_zip (by omega), hwritten]
    · rw [Sample.labels, List.map_snd_zip (by omega)]
      exact (goldIds_iff_standsFor htable.distinct htable.named hlabels).2 ⟨hstand, hinRange⟩

end

namespace Script

theorem handed_score (number : Float → String) (m : Facade String) (batchSize : Int)
    (texts : List String) (gold : List Int) :
    (score number m batchSize texts gold).handed = (predictIds m texts batchSize).handed := by
  unfold score
  dsimp only
  split <;> rfl

theorem run_of_sample {number : Float → String} {argv : List String} {arguments : Arguments}
    (hargv : Arguments.ofWords argv = .ok arguments) {disk : Disk} {sample : Sample}
    (hsample : Sample.ofFile disk arguments.table = .ok sample) {m : Facade String} {gold : List Int}
    (hgold : goldIds m.labels sample.labels = .ok gold) :
    run number disk (.ok m) argv = score number m arguments.batchSize (texts sample) gold := by
  simp only [run, hargv, hsample, evaluateOn, hgold]

end Script

def sentiment : Facade String :=
  ⟨[(0, .str "NEGATIVE"), (1, .str "POSITIVE")], fun texts => .ok (texts.map fun _ => [0, 1])⟩

theorem distinctTexts_sentiment : sentiment.labels.DistinctTexts where
  strings := by
    intro e he
    simp only [sentiment, List.mem_cons, List.not_mem_nil, or_false] at he
    rcases he with rfl | rfl <;> exact ⟨_, rfl⟩
  nodup := by simp [sentiment]

theorem exists_outcome_sentiment (texts : List String) {size : Int} (hsize : 1 ≤ size) :
    ∃ ids, (predictIds sentiment texts size).outcome = .ok ids := by
  have hm : sentiment.Separate (fun _ => [0, 1]) 2 := ⟨fun _ _ => rfl, fun _ => rfl⟩
  have hcovers : sentiment.labels.Covers 2 := by
    intro i hi
    interval_cases i <;> decide
  have hlabel : ∀ t ∈ texts, Facade.HasLabel sentiment.labels [0, 1] :=
    fun _ _ => Facade.hasLabel_of_covers hcovers (List.cons_ne_nil _ _) (Nat.le_refl 2)
  obtain ⟨labels, hlabels⟩ := Facade.exists_predict_eq_ok hm hlabel
  exact ⟨_, by rw [outcome_predictIds hm texts hsize, hlabels]; rfl⟩

def fileWith (csv : String) : Disk := [("eval.csv", .octets (Text.utf8 csv.toList))]

theorem ofWords_table : Arguments.ofWords ["eval.csv"] = .ok ⟨"eval.csv", 32⟩ := by
  have hwords : words ["eval.csv"] = .ok [.value "eval.csv"] := rfl
  simp [Arguments.ofWords, hwords, Parse.run, Parse.takeTable, defaultBatchSize]

/-- What reaches a model that never fails are the texts of the sample. -/
theorem flatten_handed_sentiment {csv : String} {sample : Sample}
    (hsample : Sample.ofFile (fileWith csv) "eval.csv" = .ok sample) {gold : List Int}
    (hgold : goldIds sentiment.labels sample.labels = .ok gold) :
    (Script.run Decimal.shortest (fileWith csv) (.ok sentiment) ["eval.csv"]).handed.flatten =
      Script.texts sample := by
  have hsize : (1 : Int) ≤ 32 := by decide
  obtain ⟨slices, hslices, -, hall⟩ := handed_predictIds sentiment (Script.texts sample) hsize
  obtain ⟨ids, hids⟩ := exists_outcome_sentiment (Script.texts sample) hsize
  rw [Script.run_of_sample ofWords_table hsample hgold, Script.handed_score, hall ids hids,
    hslices.flatten]

theorem fieldText_plain {field : List Char} (h : field.any Table.needsQuotes = false) :
    Table.FieldText field field :=
  .plain fun c hc => Bool.eq_false_iff.2 (List.any_eq_false.1 h c hc)

theorem recordText_pair {a b : List Char} (ha : a.any Table.needsQuotes = false)
    (hb : b.any Table.needsQuotes = false) : Table.RecordText [a, b] (a ++ ',' :: b) :=
  .cons (fieldText_plain ha) (.single (fieldText_plain hb))

theorem recordText_header : Table.RecordText ["text".toList, "label".toList] "text,label".toList :=
  recordText_pair (a := "text".toList) (by decide) (by decide)

def droppedText : List LabelledText := [⟨"NA", "POSITIVE", 1⟩, ⟨"fine", "NEGATIVE", 0⟩]

def droppedCsv : String := "text,label\nNA,POSITIVE\nfine,NEGATIVE\n"

theorem labelledTable_droppedText : LabelledTable sentiment.labels droppedText droppedCsv.toList where
  written := .line recordText_header .feed (.line (recordText_pair (by decide) (by decide)) .feed
    (.line (recordText_pair (by decide) (by decide)) .feed .empty))
  uncut := by decide
  distinct := distinctTexts_sentiment
  named := by
    intro row hrow
    simp only [droppedText, List.mem_cons, List.not_mem_nil, or_false] at hrow
    rcases hrow with rfl | rfl <;> rfl

/-- A numeral among numerals that is not written in the usual way. -/
def alteredText : List LabelledText := [⟨"007", "NEGATIVE", 0⟩]

def alteredCsv : String := "text,label\n007,NEGATIVE\n"

theorem labelledTable_alteredText : LabelledTable sentiment.labels alteredText alteredCsv.toList where
  written := .line recordText_header .feed (.line (recordText_pair (by decide) (by decide)) .feed .empty)
  uncut := by decide
  distinct := distinctTexts_sentiment
  named := by
    intro row hrow
    rw [List.mem_singleton.1 hrow]
    rfl

/-- Texts that the columns of a table keep: the numeral is a text beside a text that is none. -/
def keptTexts : List LabelledText := [⟨"007", "POSITIVE", 1⟩, ⟨"so \"good\"", "NEGATIVE", 0⟩]

def keptCsv : String := "text,label\n007,POSITIVE\r\n\"so \"\"good\"\"\",NEGATIVE"

theorem labelledTable_keptTexts : LabelledTable sentiment.labels keptTexts keptCsv.toList where
  written := .line recordText_header .feed (.line (recordText_pair (by decide) (by decide)) .returnFeed
    (.unended (.cons (.quoted _) (.single (fieldText_plain (by decide))))))
  uncut := by decide
  distinct := distinctTexts_sentiment
  named := by
    intro row hrow
    simp only [keptTexts, List.mem_cons, List.not_mem_nil, or_false] at hrow
    rcases hrow with rfl | rfl <;> rfl

theorem faithful_keptTexts : Faithful keptTexts where
  texts := by
    rw [Table.rowsTogether_two]
    refine ⟨_, Table.readsAs_text (by decide) (by decide) "so \"good\"".toList (by decide) rfl rfl rfl, ?_⟩
    rfl
  labels := by
    rw [Table.rowsTogether_two]
    refine ⟨_, Table.readsAs_text (by decide) (by decide) "NEGATIVE".toList (by decide) rfl rfl rfl, ?_⟩
    exact .cons (by unfold StandsFor; decide) (.cons (by unfold StandsFor; decide) .nil)
  inRange := by decide

end SequenceClassification.Evaluation
