import BandedPalette.Proofs.Command.Failing
import BandedPalette.Proofs.Command.SelfComparison
import BandedPalette.Proofs.Encoding
import BandedPalette.Proofs.Fingerprint
import BandedPalette.Proofs.Numeral.Columns
namespace BandedPalette.Command

open Json Numeral

structure BandLine where
  band : Nat
  base : Nat
  top : Nat
  low : Nat
  high : Nat
  levels : Vector Nat 4
  gray : Nat

structure HueLine where
  slot : Nat
  code : Nat
  red : Nat
  green : Nat
  blue : Nat

def HueLine.selector (shown : HueLine) : Channel → Nat
  | .red => shown.red
  | .green => shown.green
  | .blue => shown.blue

structure Inspection where
  bands : List BandLine
  hues : List HueLine

def bandLabels : List Label :=
  [{ text := "band=" }, { text := " base=" }, { text := " top=" }, { text := " interval=[" },
    { text := "," }, { text := "] levels=[" }, { text := ", " }, { text := ", " },
    { text := ", " }, { text := "] gray=" }]

def hueLabels : List Label :=
  [{ text := "slot=" }, { text := " code=0b", base := 2 }, { text := " r=" }, { text := " g=" },
    { text := " b=" }]

def decodeBandLine (row : List Char) : Option BandLine :=
  match decodeRow bandLabels row with
  | some [band, base, top, low, high, first, second, third, last, gray] =>
      some ⟨band, base, top, low, high, #v[first, second, third, last], gray⟩
  | _ => none

def decodeHueLine (row : List Char) : Option HueLine :=
  match decodeRow hueLabels row with
  | some [slot, code, red, green, blue] => some ⟨slot, code, red, green, blue⟩
  | _ => none

/-- The rows of the bands begin at the fifth line, and those of the hues one line
after their end. -/
def decodeInspection (printed : String) : Option Inspection := do
  let rows := Text.lines printed.toList
  let bands ← ((rows.drop 4).take 7).mapM decodeBandLine
  let hues ← (rows.drop 12).mapM decodeHueLine
  return ⟨bands, hues⟩

def Inspection.tables? (shown : Inspection) : Option Tables := do
  let base ← exactly? 7 (← (shown.bands.map BandLine.base).mapM Document.word16?)
  let top ← exactly? 7 (← (shown.bands.map BandLine.top).mapM Document.word16?)
  let hueCodes ← exactly? 18 (← (shown.hues.map HueLine.code).mapM Document.word8?)
  return ⟨base, top, hueCodes⟩

def decodeTables (printed : String) : Option Tables :=
  (decodeInspection printed).bind Inspection.tables?

section Rows

variable (formula : Formula) (band : Band) (hue : Hue)

def shownBand : String :=
  bandRow formula band (formula.bounds band) ((List.finRange 4).map (formula.level band))

def shownHue : String :=
  hueRow hue (formula.hueCode hue)

def bandCells : List Cell :=
  [⟨{ text := "band=" }, _, _, writesCell_decimal band.val⟩,
    ⟨{ text := " base=" }, _, _, writesCell_column 3 (formula.tables.baseOf band).toNat⟩,
    ⟨{ text := " top=" }, _, _, writesCell_column 3 (formula.tables.topOf band).toNat⟩,
    ⟨{ text := " interval=[" }, _, _, writesCell_column 3 (formula.bounds band).low.toNat⟩,
    ⟨{ text := "," }, _, _, writesCell_column 3 (formula.bounds band).high.toNat⟩,
    ⟨{ text := "] levels=[" }, _, _, writesCell_decimal (formula.level band ⟨0, by decide⟩).toNat⟩,
    ⟨{ text := ", " }, _, _, writesCell_decimal (formula.level band ⟨1, by decide⟩).toNat⟩,
    ⟨{ text := ", " }, _, _, writesCell_decimal (formula.level band ⟨2, by decide⟩).toNat⟩,
    ⟨{ text := ", " }, _, _, writesCell_decimal (formula.level band ⟨3, by decide⟩).toNat⟩,
    ⟨{ text := "] gray=" }, _, _, writesCell_decimal (firstColor formula band).red.toNat⟩]

def hueCells : List Cell :=
  [⟨{ text := "slot=" }, _, _, writesCell_column 2 (hue.val + 1)⟩,
    ⟨{ text := " code=0b", base := 2 }, _, _,
      writesCell_binary 6 (formula.hueCode hue).pack.toNat⟩,
    ⟨{ text := " r=" }, _, _, writesCell_decimal (formula.hueCode hue).red.val⟩,
    ⟨{ text := " g=" }, _, _, writesCell_decimal (formula.hueCode hue).green.val⟩,
    ⟨{ text := " b=" }, _, _, writesCell_decimal (formula.hueCode hue).blue.val⟩]

def bandLine : BandLine where
  band := band.val
  base := (formula.tables.baseOf band).toNat
  top := (formula.tables.topOf band).toNat
  low := (formula.bounds band).low.toNat
  high := (formula.bounds band).high.toNat
  levels := Vector.ofFn fun step => (formula.level band step).toNat
  gray := (firstColor formula band).red.toNat

def hueLine : HueLine where
  slot := hue.val + 1
  code := (formula.tables.codeOf hue).toNat
  red := (formula.hueCode hue).red.val
  green := (formula.hueCode hue).green.val
  blue := (formula.hueCode hue).blue.val

theorem toList_shownBand :
    (shownBand formula band).toList = rowText (bandCells formula band) ++ ['\n'] := by
  have levels : (List.finRange 4).map (formula.level band) =
      [formula.level band ⟨0, by decide⟩, formula.level band ⟨1, by decide⟩,
        formula.level band ⟨2, by decide⟩, formula.level band ⟨3, by decide⟩] := rfl
  simp [shownBand, bandRow, line, levelsText, levels, rowText, bandCells]

theorem toList_shownHue :
    (shownHue formula hue).toList = rowText (hueCells formula hue) ++ ['\n'] := by
  simp [shownHue, hueRow, line, rowText, hueCells]

example : shownBand Formula.standard 0 =
    line "band=0 base=192 top=256 interval=[191,255] levels=[191, 212, 233, 255] gray=255" := by
  rfl

theorem decodeBandLine_rowText :
    decodeBandLine (rowText (bandCells formula band)) = some (bandLine formula band) := by
  have read : decodeRow bandLabels (rowText (bandCells formula band)) = _ :=
    decodeRow_rowText (bandCells formula band)
  rw [decodeBandLine, read]
  rfl

/-- The stored code is printed, since none of its bits is lost in the selectors. -/
theorem pack_hueCode : (formula.hueCode hue).pack = formula.tables.codeOf hue :=
  HueCode.pack_unpack (formula.sound.code_le hue)

theorem decodeHueLine_rowText :
    decodeHueLine (rowText (hueCells formula hue)) = some (hueLine formula hue) := by
  have read : decodeRow hueLabels (rowText (hueCells formula hue)) = _ :=
    decodeRow_rowText (hueCells formula hue)
  rw [decodeHueLine, read, hueLine, ← pack_hueCode]
  rfl

end Rows

section Text

variable (formula : Formula)

def nameRows : List (List Char) :=
  [("formula_id    = " ++ formula.fingerprint).toList,
    ("standard      = " ++ if formula.isStandard then "true" else "false").toList,
    ("palette_crc32 = " ++ checksumText (paletteChecksum formula.palette)).toList]

def inspectionRows : List (List Char) :=
  nameRows formula ++
    ("--- bands ---".toList ::
      (List.finRange 7).map fun band => rowText (bandCells formula band)) ++
    ("--- hue codes ---".toList ::
      (List.finRange 18).map fun hue => rowText (hueCells formula hue))

def inspectionText : String :=
  formulaNames formula ++ (line "--- bands ---" ++
    (String.join ((List.finRange 7).map (shownBand formula)) ++ (line "--- hue codes ---" ++
      String.join ((List.finRange 18).map (shownHue formula)))))

theorem visible_nameRows : ∀ row ∈ nameRows formula, Visible row := by
  have named {label value : String} (front : label.toList.all (fun c => 32 ≤ c.toNat) = true)
      (back : Visible value.toList) : Visible (label ++ value).toList := by
    rw [String.toList_append]
    exact visible_append (visible_of_all front) back
  have answer : Visible (if formula.isStandard then "true" else "false").toList := by
    split <;> exact visible_of_all (by decide)
  refine List.forall_mem_cons.mpr ⟨named (by decide) (visible_hexBytes _), ?_⟩
  refine List.forall_mem_cons.mpr ⟨named (by decide) answer, ?_⟩
  exact List.forall_mem_cons.mpr ⟨named (by decide) (visible_hex _ _), List.forall_mem_nil _⟩

theorem visible_inspectionRows : ∀ row ∈ inspectionRows formula, Visible row := by
  have headed {header : String} {rows : List (List Char)}
      (front : header.toList.all (fun c => 32 ≤ c.toNat) = true)
      (each : ∀ row ∈ rows, Visible row) : ∀ row ∈ header.toList :: rows, Visible row :=
    List.forall_mem_cons.mpr ⟨visible_of_all front, each⟩
  have bands : ∀ row ∈ (List.finRange 7).map fun band => rowText (bandCells formula band),
      Visible row := List.forall_mem_map.mpr fun _ _ => visible_rowText _
  have hues : ∀ row ∈ (List.finRange 18).map fun hue => rowText (hueCells formula hue),
      Visible row := List.forall_mem_map.mpr fun _ _ => visible_rowText _
  refine List.forall_mem_append.mpr ⟨List.forall_mem_append.mpr ⟨visible_nameRows formula, ?_⟩, ?_⟩
  · exact headed (by decide) bands
  · exact headed (by decide) hues

theorem toList_line (text : String) : (line text).toList = text.toList ++ ['\n'] :=
  String.toList_append

theorem toList_formulaNames :
    (formulaNames formula).toList = (nameRows formula).flatMap fun row => row ++ ['\n'] := by
  simp only [formulaNames, nameRows, toList_line, String.toList_append, List.flatMap_cons,
    List.flatMap_nil, List.append_assoc, List.append_nil]

theorem toList_inspectionText :
    (inspectionText formula).toList =
      (inspectionRows formula).flatMap fun row => row ++ ['\n'] := by
  rw [inspectionText, inspectionRows]
  simp only [String.toList_append, toList_formulaNames, toList_line,
    toList_join_rows (toList_shownBand formula), toList_join_rows (toList_shownHue formula),
    List.flatMap_append, List.flatMap_cons, List.append_assoc]

theorem lines_inspectionText :
    Text.lines (inspectionText formula).toList = inspectionRows formula := by
  rw [toList_inspectionText]
  exact lines_rows (visible_inspectionRows formula)

def inspection : Inspection :=
  ⟨(List.finRange 7).map (bandLine formula), (List.finRange 18).map (hueLine formula)⟩

theorem decodeInspection_inspectionText :
    decodeInspection (inspectionText formula) = some (inspection formula) := by
  have bands : ((inspectionRows formula).drop 4).take 7 =
      (List.finRange 7).map fun band => rowText (bandCells formula band) := rfl
  have hues : (inspectionRows formula).drop 12 =
      (List.finRange 18).map fun hue => rowText (hueCells formula hue) := rfl
  simp only [decodeInspection, lines_inspectionText, bands, hues,
    mapM_map_some (decodeBandLine_rowText formula), mapM_map_some (decodeHueLine_rowText formula)]
  rfl

end Text

/-- An action that succeeds and does nothing but print. -/
def Appends (text : String) (action : ExceptT Failure (StateM Workspace) PUnit) : Prop :=
  ∀ workspace, action.run.run workspace =
    (.ok (), { workspace with printed := workspace.printed ++ text })

theorem appends_print (text : String) : Appends text (Workspace.surroundings.print text) :=
  fun _ => run_print text

theorem Appends.bind {first second : String}
    {action next : ExceptT Failure (StateM Workspace) PUnit} (before : Appends first action)
    (after : Appends second next) : Appends (first ++ second) (action >>= fun _ => next) := by
  intro workspace
  rw [run_bind, before, ← String.append_assoc]
  exact after _

theorem appends_printRow {row : Except DomainFault String} {text : String}
    (found : row = .ok text) : Appends text (printRow Workspace.surroundings row) := by
  subst found
  exact appends_print text

theorem appends_forM {items : List ι} {text : ι → String}
    {each : ι → ExceptT Failure (StateM Workspace) PUnit}
    (appends : ∀ item, Appends (text item) (each item)) :
    Appends (String.join (items.map text)) (items.forM each) := by
  induction items with
  | nil =>
      intro workspace
      rw [List.map_nil, String.join_nil, String.append_empty]
      rfl
  | cons item rest ih =>
      rw [List.map_cons, String.join_cons]
      exact (appends item).bind ih

theorem appends_printTables (formula : Formula) :
    Appends (inspectionText formula) (do
      Workspace.surroundings.print (formulaNames formula)
      printTables Workspace.surroundings formula) :=
  (appends_print _).bind ((appends_print _).bind
    ((appends_forM fun band => appends_printRow (bandRowAt_eq formula band)).bind
      ((appends_print _).bind
        (appends_forM fun hue => appends_printRow (hueRowAt_eq formula hue)))))

theorem run_inspect (folder : Folder) (path : Option String) :
    (Command.inspect path).run folder =
      printing folder ((formulaIn folder path).map inspectionText) := by
  unfold Command.run perform
  rw [run_bind, run_loadFormula]
  cases formulaIn folder path with
  | error failure => rfl
  | ok formula =>
      simp only
      rw [appends_printTables formula]
      simp [printing, Except.map]

theorem mapM_column {read : Nat → Option α} {number : α → Nat} (items : Vector α size)
    (each : ∀ item, read (number item) = some item) :
    ((List.finRange size).map fun place => number items[place.val]).mapM read =
      some items.toList := by
  have whole : (List.finRange size).map (fun place => items[place.val]) = items.toList := by
    apply List.ext_getElem
    · simp
    · intro place _ _
      simp
  rw [← whole]
  exact mapM_map_some fun place => each items[place.val]

theorem tables?_inspection (formula : Formula) :
    (inspection formula).tables? = some formula.tables := by
  have base : ((inspection formula).bands.map BandLine.base).mapM Document.word16? =
      some formula.tables.base.toList := by
    rw [inspection, List.map_map]
    exact mapM_column formula.tables.base Document.word16?_toNat
  have top : ((inspection formula).bands.map BandLine.top).mapM Document.word16? =
      some formula.tables.top.toList := by
    rw [inspection, List.map_map]
    exact mapM_column formula.tables.top Document.word16?_toNat
  have hueCodes : ((inspection formula).hues.map HueLine.code).mapM Document.word8? =
      some formula.tables.hueCodes.toList := by
    rw [inspection, List.map_map]
    exact mapM_column formula.tables.hueCodes Document.word8?_toNat
  simp only [Inspection.tables?, base, top, hueCodes, exactly?_toList, bind, Option.bind]
  rfl

theorem decodeTables_inspectionText (formula : Formula) :
    decodeTables (inspectionText formula) = some formula.tables := by
  rw [decodeTables, decodeInspection_inspectionText]
  exact tables?_inspection formula

theorem inspectionText_inj {left right : Formula}
    (same : inspectionText left = inspectionText right) : left = right := by
  have read := decodeTables_inspectionText left
  rw [same, decodeTables_inspectionText] at read
  exact Formula.eq_iff_tables.mpr (Option.some.inj read).symm

theorem inspectionText_ne_empty (formula : Formula) : inspectionText formula ≠ "" := by
  intro empty
  have read := decodeTables_inspectionText formula
  rw [empty] at read
  cases read

/-- A row of a band shows the stored bounds, and its levels and its gray are those
of the colours in the band. -/
structure BandLine.Shows (shown : BandLine) (formula : Formula) (band : Band) : Prop where
  place : shown.band = band.val
  base : shown.base = (formula.tables.baseOf band).toNat
  top : shown.top = (formula.tables.topOf band).toNat
  interval : ∃ bounds, formula.boundsAt band.val = .ok bounds ∧ shown.low = bounds.low.toNat ∧
    shown.high = bounds.high.toNat
  level : ∀ step : Selector, ∃ level, formula.levelAt band.val step = .ok level ∧
    shown.levels[step.val] = level.toNat
  channel : ∀ (step : Selector) (index : Index) (hue : Hue) (which : Channel),
    index.band = band → index.hue? = some hue →
      HueCode.field (formula.tables.codeOf hue) which = step.val →
        ((formula.encode index).channel which).toNat = shown.levels[step.val]
  gray : ∀ (index : Index) (which : Channel), index.band = band → index.slot.val = 0 →
    ((formula.encode index).channel which).toNat = shown.gray

structure HueLine.Shows (shown : HueLine) (formula : Formula) (hue : Hue) : Prop where
  place : shown.slot = hue.val + 1
  code : shown.code = (formula.tables.codeOf hue).toNat
  selector : ∀ which, shown.selector which = HueCode.field (formula.tables.codeOf hue) which
  repacked : ∃ code, formula.hueCodeAt shown.slot = .ok code ∧
    code.pack = formula.tables.codeOf hue

structure Inspection.Shows (shown : Inspection) (formula : Formula) : Prop where
  bandCount : shown.bands.length = 7
  hueCount : shown.hues.length = 18
  band : ∀ band : Band, ∃ row, shown.bands[band.val]? = some row ∧ row.Shows formula band
  hue : ∀ hue : Hue, ∃ row, shown.hues[hue.val]? = some row ∧ row.Shows formula hue

theorem firstColor_eq (formula : Formula) {index : Index} (gray : index.slot.val = 0) :
    firstColor formula index.band = formula.encode index := by
  have place : index.number = 19 * index.band.val := by
    have parts := index.number_eq_parts
    omega
  have found := Encoder.getElem?_palette formula.encode index
  rw [place] at found
  obtain ⟨_, same⟩ := List.getElem?_eq_some_iff.mp found
  exact same

theorem shows_bandLine (formula : Formula) (band : Band) :
    (bandLine formula band).Shows formula band where
  place := rfl
  base := rfl
  top := rfl
  interval := ⟨_, (formula.exact band 0).bounds_ok, rfl, rfl⟩
  level := by
    intro step
    exact ⟨_, (formula.exact band step).level_ok, by simp [bandLine]⟩
  channel := by
    intro step index hue which inside found taken
    subst inside
    have chosen : (formula.hueCode hue).selector which = step :=
      Fin.ext ((HueCode.selector_unpack _ which).trans taken)
    rw [formula.channel_encode found, chosen]
    simp [bandLine]
  gray := by
    intro index which inside first
    subst inside
    rw [bandLine, firstColor_eq formula first, formula.encode_gray first]
    cases which <;> rfl

theorem shows_hueLine (formula : Formula) (hue : Hue) :
    (hueLine formula hue).Shows formula hue where
  place := rfl
  code := rfl
  selector := by
    intro which
    rw [← HueCode.selector_unpack]
    cases which <;> rfl
  repacked := by
    refine ⟨formula.hueCode hue, ?_, pack_hueCode formula hue⟩
    simp [hueLine, Formula.hueCodeAt, Except.map]

theorem shows_inspection (formula : Formula) : (inspection formula).Shows formula where
  bandCount := by simp [inspection]
  hueCount := by simp [inspection]
  band := fun band => ⟨_, by simp [inspection], shows_bandLine formula band⟩
  hue := fun hue => ⟨_, by simp [inspection], shows_hueLine formula hue⟩

/-- Arguments that ask for what is shown of a formula in a file. -/
def AsksInspection (arguments : List String) (path : String) : Prop :=
  ofArguments arguments = .ok (.inspect (some path))

theorem AsksInspection.run {arguments : List String} {path : String}
    (asks : AsksInspection arguments path) (folder : Folder) :
    BandedPalette.run arguments folder =
      .ok (printing folder ((formulaIn folder (some path)).map inspectionText)) := by
  rw [run_ofArguments asks, run_inspect]

/-- Only the formula that is shown can be printed like it; a run that fails prints
nothing. -/
theorem ofDocument_of_printed {folder : Folder} {path text : String} {arguments : List String}
    {outcome : Outcome} {formula : Formula} (found : folder.read path = .ok text)
    (asks : AsksInspection arguments path) (ran : BandedPalette.run arguments folder = .ok outcome)
    (same : outcome.workspace.printed = inspectionText formula) :
    Formula.ofDocument text = .ok formula := by
  rw [asks.run] at ran
  cases decoded : Formula.ofDocument text with
  | error fault =>
      simp only [formulaIn, fileIn, found, decoded] at ran
      cases ran
      exact absurd same.symm (inspectionText_ne_empty formula)
  | ok other =>
      rw [formulaIn_of_read found decoded] at ran
      cases ran
      rw [inspectionText_inj same]

/-- A formula in a file is shown with its tables, which are read back from the
rows, and with the levels and grays of its colours.  Another file is shown alike
only if it is read as the same formula. -/
theorem inspection_faithful {folder : Folder} {path text : String} {formula : Formula}
    (found : folder.read path = .ok text) (decoded : Formula.ofDocument text = .ok formula) :
    (IsPlain path → AsksInspection ["formula", "inspect", "--formula", path] path) ∧
      ∃ printed shown,
        (∀ arguments, AsksInspection arguments path → Prints arguments folder printed) ∧
        (Text.lines printed.toList).length = 30 ∧
        decodeInspection printed = some shown ∧ shown.Shows formula ∧
        shown.tables? = some formula.tables ∧
        ∀ (other : Folder) otherPath otherText arguments outcome,
          other.read otherPath = .ok otherText → AsksInspection arguments otherPath →
          BandedPalette.run arguments other = .ok outcome → outcome.workspace.printed = printed →
            Formula.ofDocument otherText = .ok formula := by
  refine ⟨ofArguments_inspect, inspectionText formula, inspection formula, ?prints, ?lines,
    decodeInspection_inspectionText formula, shows_inspection formula, tables?_inspection formula,
    ?alike⟩
  case prints =>
    intro arguments asks
    rw [Prints, asks.run, formulaIn_of_read found decoded]
    rfl
  case lines =>
    rw [lines_inspectionText]
    simp [inspectionRows, nameRows]
  case alike =>
    intro other otherPath otherText arguments outcome stored asks ran same
    exact ofDocument_of_printed stored asks ran same

theorem inspection_faithful_standard :
    ∃ printed shown,
      Prints ["formula", "inspect", "--formula", "formula.json"] standardFolder printed ∧
        decodeInspection printed = some shown ∧ shown.Shows Formula.standard ∧
        shown.tables? = some Formula.standardTables := by
  have plain : IsPlain "formula.json" := by
    intro c rest
    simp
  obtain ⟨asks, printed, shown, prints, _, read, shows, tables, _⟩ :=
    inspection_faithful read_standardFolder (ofDocument_line Formula.standard)
  exact ⟨printed, shown, prints _ (asks plain), read, shows, tables⟩

end BandedPalette.Command
