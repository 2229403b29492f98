import BandedPalette.Proofs.Command.Arguments
import BandedPalette.Proofs.Command.Performing
import BandedPalette.Proofs.Document.Agreement
import BandedPalette.Proofs.Folder
import BandedPalette.Proofs.Json.Decoding
import BandedPalette.Proofs.Reference.Reading
import BandedPalette.Proofs.Report.Exactness
import BandedPalette.Proofs.Result
namespace BandedPalette.Command

open Json Numeral

def textField (name : String) : Value → Option String
  | .record fields =>
      match fields.lookup name with
      | some (.text value) => some value
      | _ => none
  | _ => none

def hexField (row : List Char) : Option (List Char) :=
  ((decode row).bind (textField "hex")).map String.toList

/-- The `hex` fields of printed records, one for each line. -/
def hexColumn (printed : String) : Option (List (List Char)) :=
  (Text.lines printed.toList).mapM hexField

def entryValue (index : Index) (color : Rgb) : Value :=
  .record
    [("band", .natural index.band.val), ("hex", .text color.text),
      ("index", .natural index.number),
      ("rgb", .list (color.toBytes.map fun level => .natural level.toNat)),
      ("slot", .natural index.slot.val)]

theorem entryRecord_eq (index : Index) (color : Rgb) :
    entryRecord index color = (entryValue index color).compact := by
  simp [entryRecord, entryValue, Value.sorted, Value.sortedFields, Value.sortedItems,
    Value.natural, Rgb.toBytes, List.mergeSort, List.MergeSort.Internal.splitInTwo]

theorem plain_entryValue (index : Index) (color : Rgb) : Plain (entryValue index color) := by
  have levels : Plain (.list (color.toBytes.map fun level => .natural level.toNat)) := by
    apply Plain.list
    intro item member
    obtain ⟨level, _, rfl⟩ := List.mem_map.mp member
    exact .integer
  apply Plain.record
  intro field member
  simp only [List.mem_cons, List.not_mem_nil, or_false] at member
  rcases member with rfl | rfl | rfl | rfl | rfl
  · exact .integer
  · exact .text
  · exact .integer
  · exact levels
  · exact .integer

theorem hexField_entryRecord (index : Index) (color : Rgb) :
    hexField (entryRecord index color).toList = some color.text.toList := by
  rw [entryRecord_eq, hexField, decode_compact (plain_entryValue index color)]
  rfl

theorem lines_entriesText (formula : Formula) (indices : List Index) :
    Text.lines (entriesText .records formula indices).toList =
      indices.map fun index => (entryRecord index (formula.encode index)).toList := by
  have shape (index : Index) : (entryText .records formula index).toList =
      (entryValue index (formula.encode index)).compact.toList ++ ['\n'] := by
    simp [entryText, line, entryRecord_eq]
  simp only [entryRecord_eq]
  exact lines_join shape fun index => visible_compact (plain_entryValue index _)

theorem hexColumn_entriesText (formula : Formula) :
    hexColumn (entriesText .records formula Index.all) =
      some (formula.palette.map fun color => color.text.toList) := by
  have each (index : Index) := hexField_entryRecord index (formula.encode index)
  rw [hexColumn, lines_entriesText, mapM_map_some each, Formula.palette, Encoder.palette,
    List.map_map]
  rfl

def exactRow (index : Index) : String :=
  line (decimal index.number ++ "," ++ decimal index.band.val ++ "," ++ decimal index.slot.val ++
    ",0,0,0")

def exactSeries : String :=
  line "index,band,slot,red,green,blue" ++ String.join (Index.all.map exactRow)

theorem csvRow_compare_self (index : Index) (color : Rgb) :
    csvRow (Entry.compare index color color) = exactRow index := by
  have zero : Difference.ofColors color color = Difference.zero :=
    Difference.ofColors_eq_zero_iff.mpr rfl
  have errors : "," ++ (signed Difference.zero.red.toInt ++ ("," ++
      (signed Difference.zero.green.toInt ++ ("," ++ signed Difference.zero.blue.toInt)))) =
      ",0,0,0" := by decide
  simp only [csvRow, Entry.compare, zero, exactRow, String.append_assoc, errors]

theorem csvText_entriesOf_self (encoder : Encoder) :
    csvText ⟨Report.entriesOf encoder encoder⟩ = exactSeries := by
  have rows : (Report.entriesOf encoder encoder).map csvRow = Index.all.map exactRow := by
    rw [Report.entriesOf, List.map_map]
    exact List.map_congr_left fun index _ => csvRow_compare_self index (encoder index)
  rw [csvText, rows, exactSeries]

section Comparison

variable {folder : Folder} {formulaPath referencePath formulaText referenceText : String}
  {formula : Formula}

theorem prints_encode (plain : IsPlain formulaPath)
    (found : folder.read formulaPath = .ok formulaText)
    (decoded : Formula.ofDocument formulaText = .ok formula) :
    Prints ["encode", "--formula", formulaPath, "--fmt", "jsonl"] folder
      (entriesText .records formula Index.all) := by
  refine prints_of_run (ofArguments_encode plain) ?_
  rw [run_encode, formulaIn_of_read found decoded]
  rfl

theorem comparisonIn_printed (found : folder.read formulaPath = .ok formulaText)
    (decoded : Formula.ofDocument formulaText = .ok formula)
    (stored : folder.read referencePath = .ok referenceText)
    (lines : Text.lines referenceText.toList =
      formula.palette.map fun color => color.text.toList) :
    comparisonIn folder (some referencePath) (some formulaPath) =
      .ok (formula, ⟨Report.entriesOf formula.encode formula.encode⟩) := by
  have read : Reference.ofText referenceText = .ok formula.palette := by
    rw [Reference.ofText, Reference.ofChars, lines, Reference.readLines_texts]
  have compared : Report.compare formula.palette formula.encode = _ :=
    Report.compare_palette formula.encode formula.encode
  rw [comparisonIn, formulaIn_of_read found decoded, referenceIn_of_read stored read]
  simp only [bind, Except.bind, compared]
  rfl

end Comparison

/-- The printed colours of a formula, stored as a reference, are compared with
it without any error. -/
theorem self_comparison_exact {before after : Folder}
    {formulaPath referencePath formulaText referenceText : String} {formula : Formula}
    (formulaPlain : IsPlain formulaPath) (referencePlain : IsPlain referencePath)
    (found : before.read formulaPath = .ok formulaText)
    (decoded : Formula.ofDocument formulaText = .ok formula)
    (kept : after.read formulaPath = .ok formulaText)
    (stored : after.read referencePath = .ok referenceText)
    (copied : ∀ printed column,
      Prints ["encode", "--formula", formulaPath, "--fmt", "jsonl"] before printed →
        hexColumn printed = some column → Text.lines referenceText.toList = column) :
    (∃ printed column,
      Prints ["encode", "--formula", formulaPath, "--fmt", "jsonl"] before printed ∧
        hexColumn printed = some column ∧ column.length = 133) ∧
      Prints ["series", "--formula", formulaPath, "--reference", referencePath] after
        exactSeries ∧
      ∃ report, Report.compare formula.palette formula.encode = .ok report ∧
        report.summary.nonZero = 0 ∧ report.summary.total = 399 ∧
        report.summary.maxError = 0 ∧ report.summary.minError = 0 ∧
        Prints ["analyze", "--formula", formulaPath, "--reference", referencePath] after
          (analysisText .lines formula (some referencePath) 0 false report) ∧
        ∀ top bands format,
          (Command.analyze (some referencePath) (some formulaPath) top bands format).run after =
            ⟨.ok (),
              ⟨after, analysisText format formula (some referencePath) top bands report⟩⟩ := by
  have encoded := prints_encode formulaPlain found decoded
  have column := hexColumn_entriesText formula
  have lines := copied _ _ encoded column
  have compared := comparisonIn_printed kept decoded stored lines
  have analyzed (top : Nat) (bands : Bool) (format : SummaryFormat) :
      (Command.analyze (some referencePath) (some formulaPath) top bands format).run after =
        printing after (.ok (analysisText format formula (some referencePath) top bands
          ⟨Report.entriesOf formula.encode formula.encode⟩)) := by
    rw [run_analyze, compared]
    rfl
  have extremes := Report.extremes_summary_eq_zero_iff.mpr (rfl : formula.palette = _)
  refine ⟨⟨_, _, encoded, column, by simp [Formula.palette]⟩, ?series, _,
    Report.compare_palette formula.encode formula.encode,
    Report.nonZero_summary_eq_zero_iff.mpr rfl, Report.total_summary_entriesOf _ _, extremes.1,
    extremes.2, ?analysis, analyzed⟩
  case analysis =>
    exact prints_of_run (ofArguments_analyze formulaPlain referencePlain)
      (analyzed 0 false .lines)
  case series =>
    refine prints_of_run (ofArguments_series formulaPlain referencePlain) ?_
    rw [run_series, compared]
    exact congrArg (printing after) (congrArg Except.ok (csvText_entriesOf_self formula.encode))

def columnText (colors : List Rgb) : String :=
  String.join (colors.map fun color => line color.text)

theorem lines_columnText (colors : List Rgb) :
    Text.lines (columnText colors).toList = colors.map fun color => color.text.toList := by
  have inside (color : Rgb) : '\n' ∉ color.text.toList ∧ '\r' ∉ color.text.toList :=
    ⟨color.text_not_mem (by decide) (by decide), color.text_not_mem (by decide) (by decide)⟩
  have shape : (columnText colors).toList =
      colors.flatMap fun color => color.text.toList ++ ['\n'] := by
    rw [columnText, String.toList_join, List.flatMap_map]
    simp [line]
  rw [shape, Text.lines_flatMap fun color _ => inside color]

def standardFolder : Folder :=
  ⟨[("formula.json", (line Formula.standard.toDocument).toUTF8)]⟩

theorem read_standardFolder :
    standardFolder.read "formula.json" = .ok (line Formula.standard.toDocument) :=
  Folder.read_of_lookup rfl rfl rfl

theorem ofDocument_line (formula : Formula) :
    Formula.ofDocument (line formula.toDocument) = .ok formula := by
  have nothing : Blanks "".toList := by decide
  have newline : Blanks "\n".toList := by decide
  have between := formula.ofDocument_between nothing newline
  rwa [String.empty_append] at between

def columnFolder : Folder :=
  standardFolder.insert "palette.txt" (columnText Formula.standard.palette).toUTF8

theorem self_comparison_exact_standard :
    (∃ printed column,
      Prints ["encode", "--formula", "formula.json", "--fmt", "jsonl"] standardFolder printed ∧
        hexColumn printed = some column ∧ column.length = 133) ∧
      Prints ["series", "--formula", "formula.json", "--reference", "palette.txt"] columnFolder
        exactSeries ∧
      ∃ report, Report.compare Formula.standard.palette Formula.standard.encode = .ok report ∧
        report.summary.nonZero = 0 ∧ report.summary.total = 399 ∧
        report.summary.maxError = 0 ∧ report.summary.minError = 0 ∧
        Prints ["analyze", "--formula", "formula.json", "--reference", "palette.txt"] columnFolder
          (analysisText .lines Formula.standard (some "palette.txt") 0 false report) ∧
        ∀ top bands format,
          (Command.analyze (some "palette.txt") (some "formula.json") top bands format).run
              columnFolder =
            ⟨.ok (), ⟨columnFolder,
              analysisText format Formula.standard (some "palette.txt") top bands report⟩⟩ := by
  have formulaPlain : IsPlain "formula.json" := by
    intro c rest
    simp
  have referencePlain : IsPlain "palette.txt" := by
    intro c rest
    simp
  have kept : columnFolder.read "formula.json" = .ok (line Formula.standard.toDocument) :=
    Folder.read_of_lookup rfl rfl rfl
  have stored : columnFolder.read "palette.txt" = .ok (columnText Formula.standard.palette) :=
    Folder.read_of_lookup rfl rfl rfl
  have decoded := ofDocument_line Formula.standard
  refine self_comparison_exact formulaPlain referencePlain read_standardFolder decoded kept
    stored ?_
  intro printed column encoded listed
  have same := (prints_encode formulaPlain read_standardFolder decoded).unique encoded
  rw [← same, hexColumn_entriesText] at listed
  rw [lines_columnText]
  exact Option.some.inj listed

end BandedPalette.Command
