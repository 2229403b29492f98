import BandedPalette.Proofs.Command.SelfComparison
namespace BandedPalette.Command

open Json Numeral

structure SeriesRow where
  index : Int
  red : Int
  green : Int
  blue : Int
deriving DecidableEq

structure TableRow where
  band : Int
  slot : Int
  row : SeriesRow
deriving DecidableEq

def SeriesRow.error (row : SeriesRow) : Channel → Int
  | .red => row.red
  | .green => row.green
  | .blue => row.blue

def decodeNumber (text : List Char) : Option Int :=
  match decodeInteger text with
  | some (number, []) => some number
  | _ => none

def decodeNumbers (row : List Char) : Option TableRow :=
  match (Text.pieces ',' row).mapM decodeNumber with
  | some [index, band, slot, red, green, blue] => some ⟨band, slot, ⟨index, red, green, blue⟩⟩
  | _ => none

def decodeTable (printed : String) : Option (List TableRow) :=
  match Text.lines printed.toList with
  | [] => none
  | header :: rows =>
      if header = "index,band,slot,red,green,blue".toList then rows.mapM decodeNumbers else none

def decodeRecord (row : List Char) : Option SeriesRow :=
  match decode row with
  | some (.record [("index", .integer index), ("red", .integer red), ("green", .integer green),
      ("blue", .integer blue)]) => some ⟨index, red, green, blue⟩
  | _ => none

def decodeRecords (printed : String) : Option (List SeriesRow) :=
  (Text.lines printed.toList).mapM decodeRecord

def rowNumbers (entry : Entry) : List Int :=
  [entry.index.number, entry.index.band.val, entry.index.slot.val, entry.error.red.toInt,
    entry.error.green.toInt, entry.error.blue.toInt]

def commaText (numbers : List Int) : List Char :=
  [','].intercalate (numbers.map fun number => (signed number).toList)

def seriesRow (entry : Entry) : SeriesRow :=
  ⟨entry.index.number, entry.error.red.toInt, entry.error.green.toInt, entry.error.blue.toInt⟩

def tableRow (entry : Entry) : TableRow :=
  ⟨entry.index.band.val, entry.index.slot.val, seriesRow entry⟩

theorem toList_csvRow (entry : Entry) :
    (csvRow entry).toList = commaText (rowNumbers entry) ++ ['\n'] := by
  simp [csvRow, line, commaText, rowNumbers, List.intercalate, signed]

theorem decodeNumber_signed (number : Int) : decodeNumber (signed number).toList = some number := by
  have read := decodes_signed number [] ends_nil
  rw [List.append_nil] at read
  rw [decodeNumber, read]

theorem visible_commaText (numbers : List Int) : Visible (commaText numbers) := by
  apply visible_intercalate (by decide)
  intro text member
  obtain ⟨number, _, rfl⟩ := List.mem_map.mp member
  exact visible_signed number

theorem comma_not_mem_signed (number : Int) : ',' ∉ (signed number).toList := by
  intro member
  rcases mem_signed member with same | digit
  · exact absurd same (by decide)
  · exact absurd digit (by decide)

theorem mapM_pieces_commaText {numbers : List Int} (nonempty : numbers ≠ []) :
    (Text.pieces ',' (commaText numbers)).mapM decodeNumber = some numbers := by
  have apart : ∀ text ∈ numbers.map fun number => (signed number).toList, ',' ∉ text := by
    intro text member
    obtain ⟨number, _, rfl⟩ := List.mem_map.mp member
    exact comma_not_mem_signed number
  rw [commaText, Text.pieces_intercalate (by simpa using nonempty) apart,
    mapM_map_some decodeNumber_signed, List.map_id']

theorem decodeNumbers_commaText (entry : Entry) :
    decodeNumbers (commaText (rowNumbers entry)) =
      some (tableRow entry) := by
  rw [decodeNumbers, mapM_pieces_commaText (by simp [rowNumbers])]
  rfl

theorem lines_csvText (report : Report) :
    Text.lines (csvText report).toList =
      "index,band,slot,red,green,blue".toList ::
        report.entries.map fun entry => commaText (rowNumbers entry) := by
  have header : '\n' ∉ "index,band,slot,red,green,blue".toList := by decide
  have whole : '\r' ∉ "index,band,slot,red,green,blue".toList := by decide
  have rows : Text.lines (String.join (report.entries.map csvRow)).toList =
      report.entries.map fun entry => commaText (rowNumbers entry) :=
    lines_join toList_csvRow fun entry => visible_commaText (rowNumbers entry)
  have shape : (csvText report).toList = "index,band,slot,red,green,blue".toList ++
      '\n' :: (String.join (report.entries.map csvRow)).toList := by
    simp [csvText, line]
  rw [shape, Text.lines_append header, Text.withoutReturn_of_not_mem whole, rows]

theorem decodeTable_csvText (report : Report) :
    decodeTable (csvText report) = some (report.entries.map tableRow) := by
  rw [decodeTable, lines_csvText]
  exact (if_pos rfl).trans (mapM_map_some decodeNumbers_commaText)

def seriesValue (entry : Entry) : Value :=
  .record
    [("index", .natural entry.index.number), ("red", .integer entry.error.red.toInt),
      ("green", .integer entry.error.green.toInt), ("blue", .integer entry.error.blue.toInt)]

theorem plain_seriesValue (entry : Entry) : Plain (seriesValue entry) := by
  apply Plain.record
  intro field member
  simp only [List.mem_cons, List.not_mem_nil, or_false] at member
  rcases member with rfl | rfl | rfl | rfl <;> exact .integer

theorem toList_seriesRecord (entry : Entry) :
    (seriesRecord entry).toList = (seriesValue entry).compact.toList ++ ['\n'] := by
  simp [seriesRecord, line, seriesValue]

theorem decodeRecord_compact (entry : Entry) :
    decodeRecord (seriesValue entry).compact.toList = some (seriesRow entry) := by
  rw [decodeRecord, decode_compact (plain_seriesValue entry)]
  rfl

theorem lines_seriesRecords (report : Report) :
    Text.lines (seriesText .records report).toList =
      report.entries.map fun entry => (seriesValue entry).compact.toList :=
  lines_join toList_seriesRecord fun entry => visible_compact (plain_seriesValue entry)

theorem decodeRecords_seriesText (report : Report) :
    decodeRecords (seriesText .records report) = some (report.entries.map seriesRow) := by
  rw [decodeRecords, lines_seriesRecords, mapM_map_some decodeRecord_compact]

def AsksSeries (arguments : List String) (formulaPath referencePath : String)
    (format : SeriesFormat) : Prop :=
  ofArguments arguments = .ok (.series (some referencePath) (some formulaPath) format none)

def formatName : SeriesFormat → String
  | .csv => "csv"
  | .records => "jsonl"

def seriesArguments (formulaPath referencePath : String) (format : SeriesFormat) : List String :=
  ["series", "--formula", formulaPath, "--reference", referencePath, "--fmt", formatName format]

section Runs

variable {folder : Folder} {formulaPath referencePath formulaText referenceText : String}

theorem asksSeries_seriesArguments (formulaPlain : IsPlain formulaPath)
    (referencePlain : IsPlain referencePath) (format : SeriesFormat) :
    AsksSeries (seriesArguments formulaPath referencePath format) formulaPath referencePath
      format := by
  have plain : IsPlain (formatName format) := by
    intro c rest
    cases format <;> simp [formatName]
  have read : readSeriesFormat (formatName format) = .ok format := by
    cases format <;> rfl
  have settles : Settles (.ofCommand (.series none none .csv none))
      [(.formula, formulaPath), (.reference, referencePath), (.format, formatName format)]
      ⟨.series (some referencePath) (some formulaPath) format none,
        [.format, .reference, .formula], none, false⟩ := by
    refine .cons ⟨by simp [Form.ofCommand, settings], by decide, formulaPlain⟩ rfl ?_
    refine .cons ⟨by simp [settings], by decide, referencePlain⟩ rfl ?_
    refine .cons ⟨by simp [settings], by decide, plain⟩ ?_ .nil
    simp [Form.settle, Form.ofCommand, assign, read, Except.map]
  exact ofArguments_options rfl settles (by simp [required])

/-- A comparison of two texts fails as the first step that refuses one of them. -/
theorem comparisonIn_texts (found : folder.read formulaPath = .ok formulaText)
    (stored : folder.read referencePath = .ok referenceText) :
    comparisonIn folder (some referencePath) (some formulaPath) = (do
      let formula ← (Formula.ofDocument formulaText).mapError
        fun fault => .formula formulaPath (.document fault)
      let colors ← (Reference.ofText referenceText).mapError
        fun fault => .reference referencePath (.line fault)
      let report ← (Report.compare colors formula.encode).mapError .refused
      return (formula, report)) := by
  simp only [comparisonIn, formulaIn, referenceIn, fileIn, found, stored]

theorem AsksSeries.run {arguments : List String} {format : SeriesFormat}
    (asks : AsksSeries arguments formulaPath referencePath format) (folder : Folder) :
    BandedPalette.run arguments folder =
      .ok (printing folder
        ((comparisonIn folder (some referencePath) (some formulaPath)).map fun (_, report) =>
          seriesText format report)) := by
  rw [run_ofArguments asks, run_series]

end Runs

/-- A row of a place as it is in the report, with what it says of the reference. -/
structure SeriesRow.Says (row : SeriesRow) (encoder : Encoder) (colors : List Rgb)
    (report : Report) (index : Index) : Prop where
  place : row.index = index.number
  error : ∀ which, (report.series which)[index.number]?.map Int16.toInt = some (row.error which)
  reference : ∃ color, colors[index.number]? = some color ∧
    ∀ which, ((encoder index).channel which).toNat - row.error which = (color.channel which).toNat

theorem says_seriesRow (encoder wanted : Encoder) (index : Index) :
    (seriesRow (Entry.compare index (encoder index) (wanted index))).Says encoder
      wanted.palette ⟨Report.entriesOf encoder wanted⟩ index where
  place := rfl
  error := by
    intro which
    rw [Report.series, List.getElem?_map, Report.getElem?_entriesOf]
    cases which <;> rfl
  reference := by
    refine ⟨wanted index, wanted.getElem?_palette index, fun which => ?_⟩
    have error := Difference.toInt_channel_ofColors (encoder index) (wanted index) which
    have same : (seriesRow (Entry.compare index (encoder index) (wanted index))).error which =
        ((Difference.ofColors (encoder index) (wanted index)).channel which).toInt := by
      cases which <;> rfl
    rw [same, error]
    omega

/-- What a series prints in both formats: as many lines as there are places,
which say the same of each place. -/
structure SeriesTexts (encoder : Encoder) (colors : List Rgb) (report : Report)
    (table records : String) : Prop where
  tableLines : (Text.lines table.toList).length = 134
  recordLines : (Text.lines records.toList).length = 133
  rows : ∃ tableRows recordRows, decodeTable table = some tableRows ∧
    decodeRecords records = some recordRows ∧ tableRows.length = 133 ∧ recordRows.length = 133 ∧
      ∀ index : Index, ∃ band slot row, tableRows[index.number]? = some ⟨band, slot, row⟩ ∧
        recordRows[index.number]? = some row ∧ row.Says encoder colors report index ∧
          index.band.val = band ∧ index.slot.val = slot ∧ row.index = 19 * band + slot

theorem seriesTexts_compare {encoder : Encoder} {colors : List Rgb} {report : Report}
    (compared : Report.compare colors encoder = .ok report) :
    SeriesTexts encoder colors report (seriesText .csv report) (seriesText .records report) := by
  obtain ⟨wanted, rfl, rfl⟩ := Report.exists_entriesOf compared
  have count := Report.length_entriesOf encoder wanted
  refine ⟨?table, ?records, _, _, decodeTable_csvText _, decodeRecords_seriesText _,
    by simpa using count, by simpa using count, fun index => ?rows⟩
  case table =>
    rw [seriesText, lines_csvText]
    simp [count]
  case records =>
    rw [lines_seriesRecords]
    simp [count]
  case rows =>
    have entry := Report.getElem?_entriesOf encoder wanted index
    have number := index.number_eq_parts
    refine ⟨_, _, _, ?_, ?_, says_seriesRow encoder wanted index, rfl, rfl, ?_⟩
    · rw [List.getElem?_map, entry]
      rfl
    · rw [List.getElem?_map, entry]
      rfl
    · change (index.number : Int) = _
      omega

/-- Both formats of a series are printed for the same formulas and references,
and are refused for the same reason otherwise.  Nothing of the comparison is
lost in either of them. -/
theorem series_formats_agree {folder : Folder}
    {formulaPath referencePath formulaText referenceText : String}
    (found : folder.read formulaPath = .ok formulaText)
    (stored : folder.read referencePath = .ok referenceText) :
    (IsPlain formulaPath → IsPlain referencePath → ∀ format,
      AsksSeries (seriesArguments formulaPath referencePath format) formulaPath referencePath
        format) ∧
    (∀ fault, Formula.ofDocument formulaText = .error fault →
      ∀ arguments format, AsksSeries arguments formulaPath referencePath format →
        BandedPalette.run arguments folder =
          .ok ⟨.error (.formula formulaPath (.document fault)), ⟨folder, ""⟩⟩) ∧
    (∀ formula fault, Formula.ofDocument formulaText = .ok formula →
      Reference.ofText referenceText = .error fault →
      ∀ arguments format, AsksSeries arguments formulaPath referencePath format →
        BandedPalette.run arguments folder =
          .ok ⟨.error (.reference referencePath (.line fault)), ⟨folder, ""⟩⟩) ∧
    (∀ formula colors, Formula.ofDocument formulaText = .ok formula →
      Reference.ofText referenceText = .ok colors → colors.length ≠ 133 →
      ∀ arguments format, AsksSeries arguments formulaPath referencePath format →
        BandedPalette.run arguments folder =
          .ok ⟨.error (.refused (.count colors.length)), ⟨folder, ""⟩⟩) ∧
    ∀ formula colors, Formula.ofDocument formulaText = .ok formula →
      Reference.ofText referenceText = .ok colors → colors.length = 133 →
      ∃ report table records, Report.compare colors formula.encode = .ok report ∧
        (∀ arguments, AsksSeries arguments formulaPath referencePath .csv →
          Prints arguments folder table) ∧
        (∀ arguments, AsksSeries arguments formulaPath referencePath .records →
          Prints arguments folder records) ∧
        SeriesTexts formula.encode colors report table records := by
  refine ⟨asksSeries_seriesArguments, ?document, ?line, ?count, ?rows⟩
  case document =>
    intro fault refused arguments format asks
    rw [asks.run, comparisonIn_texts found stored, refused]
    rfl
  case line =>
    intro formula fault decoded refused arguments format asks
    rw [asks.run, comparisonIn_texts found stored, decoded, refused]
    rfl
  case count =>
    intro formula colors decoded read wrong arguments format asks
    have refused : Report.compare colors formula.encode = .error (.count colors.length) :=
      if_neg wrong
    rw [asks.run, comparisonIn_texts found stored, decoded, read]
    simp only [mapError_ok, mapError_error, bind, Except.bind, refused]
    rfl
  case rows =>
    intro formula colors decoded read count
    obtain ⟨report, compared⟩ : ∃ report, Report.compare colors formula.encode = .ok report :=
      Report.compare_eq_ok_iff.mpr count
    have prints (format : SeriesFormat) (arguments : List String)
        (asks : AsksSeries arguments formulaPath referencePath format) :
        Prints arguments folder (seriesText format report) := by
      rw [Prints, asks.run, comparisonIn_texts found stored, decoded, read]
      simp only [mapError_ok, bind, Except.bind, compared]
      rfl
    exact ⟨report, _, _, compared, prints .csv, prints .records, seriesTexts_compare compared⟩

def tableFolder : Folder :=
  standardFolder.insert "reference.txt" (columnText Reference.table).toUTF8

theorem series_formats_agree_table :
    ∃ report table records,
      Report.compare Reference.table Formula.standard.encode = .ok report ∧
      Prints (seriesArguments "formula.json" "reference.txt" .csv) tableFolder table ∧
      Prints (seriesArguments "formula.json" "reference.txt" .records) tableFolder records ∧
      SeriesTexts Formula.standard.encode Reference.table report table records := by
  have formulaPlain : IsPlain "formula.json" := by
    intro c rest
    simp
  have referencePlain : IsPlain "reference.txt" := by
    intro c rest
    simp
  have found : tableFolder.read "formula.json" = .ok (line Formula.standard.toDocument) :=
    Folder.read_of_lookup rfl rfl rfl
  have stored : tableFolder.read "reference.txt" = .ok (columnText Reference.table) :=
    Folder.read_of_lookup rfl rfl rfl
  have read : Reference.ofText (columnText Reference.table) = .ok Reference.table := by
    rw [Reference.ofText, Reference.ofChars, lines_columnText, Reference.readLines_texts]
  obtain ⟨asks, _, _, _, agree⟩ := series_formats_agree found stored
  obtain ⟨report, table, records, compared, csv, jsonl, texts⟩ :=
    agree _ _ (ofDocument_line Formula.standard) read Reference.length_table
  exact ⟨report, table, records, compared, csv _ (asks formulaPlain referencePlain .csv),
    jsonl _ (asks formulaPlain referencePlain .records), texts⟩

end BandedPalette.Command
