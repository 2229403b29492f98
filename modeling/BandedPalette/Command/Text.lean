import BandedPalette.Command
import BandedPalette.Formula.Fingerprint
import BandedPalette.Json.Printer
import BandedPalette.Numeral.Places
import BandedPalette.Report.Document
namespace BandedPalette.Command

open Numeral Json

def line (text : String) : String :=
  text ++ "\n"

def places (count : Nat) (x : Float) : String :=
  match Binary.ofFloat? x with
  | some value => value.toPlaces count
  | none => "NaN"

def entryRow (index : Index) (color : Rgb) : String :=
  column 3 index.number ++ " band=" ++ decimal index.band.val ++ " slot=" ++
    column 2 index.slot.val ++ " " ++ color.text ++ " (" ++ column 3 color.red.toNat ++ "," ++
    column 3 color.green.toNat ++ "," ++ column 3 color.blue.toNat ++ ")"

def entryRecord (index : Index) (color : Rgb) : String :=
  (Value.record
    [("index", .natural index.number), ("band", .natural index.band.val),
      ("slot", .natural index.slot.val), ("hex", .text color.text),
      ("rgb", .list (color.toBytes.map fun level => .natural level.toNat))]).sorted.compact

def entryText (format : EntryFormat) (formula : Formula) (index : Index) : String :=
  match format with
  | .rows => line (entryRow index (formula.encode index))
  | .records => line (entryRecord index (formula.encode index))

def entriesText (format : EntryFormat) (formula : Formula) (indices : List Index) : String :=
  String.join (indices.map (entryText format formula))

def referenceLabel (path : Option String) : String :=
  path.getD "embedded"

def summaryText (formula : Formula) (reference : Option String) (summary : Summary) : String :=
  line "--- analyze ---" ++
    line ("formula_id      = " ++ formula.fingerprint) ++
    line ("reference       = " ++ referenceLabel reference) ++
    line ("mae             = " ++ places 4 summary.meanSize) ++
    line ("max_error       = " ++ signed summary.maxError.toInt) ++
    line ("min_error       = " ++ signed summary.minError.toInt) ++
    line ("non_zero        = " ++ decimal summary.nonZero.toNat ++ " (out of " ++
      decimal summary.total.toNat ++ " values)") ++
    line ("percent_correct = " ++ places 2 summary.percentCorrect ++ "%")

def bandText (band : Band) (summary : Summary) : String :=
  line ("band=" ++ decimal band.val ++ " mae=" ++ places 4 summary.meanSize ++ " max=" ++
    signed summary.maxError.toInt ++ " min=" ++ signed summary.minError.toInt ++
    " non_zero=" ++ decimal summary.nonZero.toNat ++ "/" ++ decimal summary.total.toNat)

def rankText (rank : Nat) (entry : Entry) : String :=
  line ("#" ++ column 2 rank ++ " index=" ++ column 3 entry.index.number ++ " computed=" ++
    entry.computed.text ++ " reference=" ++ entry.reference.text ++ " error=[" ++
    signed entry.error.red.toInt ++ "," ++ signed entry.error.green.toInt ++ "," ++
    signed entry.error.blue.toInt ++ "]")

def ranksText (before : Nat) : List Entry → String
  | [] => ""
  | entry :: rest => rankText (before + 1) entry ++ ranksText (before + 1) rest

def reportText (formula : Formula) (reference : Option String) (top : Nat) (bands : Bool)
    (report : Report) : String :=
  let bandsPart :=
    if bands then
      line "--- bands ---" ++
        String.join (report.bands.map fun (band, summary) => bandText band summary)
    else ""
  let worst := report.worst top
  let ranksPart :=
    if 0 < top then
      line ("--- top " ++ decimal worst.length ++ " entries ---") ++ ranksText 0 worst
    else ""
  summaryText formula reference report.summary ++ bandsPart ++ ranksPart

def reportRecord (formula : Formula) (reference : Option String) (top : Nat) (bands : Bool)
    (report : Report) : String :=
  let always :=
    [("formula_id", Value.text formula.fingerprint),
      ("reference", .text (referenceLabel reference)), ("summary", report.summary.toValue)]
  let bandsPart := if bands then [("bands", report.bandValues)] else []
  let ranksPart :=
    if 0 < top then [("worst", Value.list ((report.worst top).map Entry.toValue))] else []
  line (Value.record (always ++ bandsPart ++ ranksPart)).sorted.pretty

def analysisText (format : SummaryFormat) (formula : Formula) (reference : Option String)
    (top : Nat) (bands : Bool) (report : Report) : String :=
  match format with
  | .lines => reportText formula reference top bands report
  | .json => reportRecord formula reference top bands report

def csvRow (entry : Entry) : String :=
  line (decimal entry.index.number ++ "," ++ decimal entry.index.band.val ++ "," ++
    decimal entry.index.slot.val ++ "," ++ signed entry.error.red.toInt ++ "," ++
    signed entry.error.green.toInt ++ "," ++ signed entry.error.blue.toInt)

def csvText (report : Report) : String :=
  line "index,band,slot,red,green,blue" ++ String.join (report.entries.map csvRow)

def seriesRecord (entry : Entry) : String :=
  line (Value.record
    [("index", .natural entry.index.number), ("red", .integer entry.error.red.toInt),
      ("green", .integer entry.error.green.toInt),
      ("blue", .integer entry.error.blue.toInt)]).compact

def seriesText (format : SeriesFormat) (report : Report) : String :=
  match format with
  | .csv => csvText report
  | .records => String.join (report.entries.map seriesRecord)

def levelsText (levels : List UInt8) : String :=
  "[" ++ String.intercalate ", " (levels.map fun level => decimal level.toNat) ++ "]"

def firstColor (formula : Formula) (band : Band) : Rgb :=
  formula.palette.get ⟨19 * band.val, by rw [Formula.palette, Encoder.length_palette]; omega⟩

/-- The bounds of a band as stored, as levels, all levels between, and the gray. -/
def bandRow (formula : Formula) (band : Band) (bounds : Bounds) (levels : List UInt8) : String :=
  line ("band=" ++ decimal band.val ++ " base=" ++
    column 3 (formula.tables.baseOf band).toNat ++ " top=" ++
    column 3 (formula.tables.topOf band).toNat ++ " interval=[" ++ column 3 bounds.low.toNat ++
    "," ++ column 3 bounds.high.toNat ++ "] levels=" ++ levelsText levels ++ " gray=" ++
    decimal (firstColor formula band).red.toNat)

def bandRowAt (formula : Formula) (band : Band) : Except DomainFault String := do
  let bounds ← formula.boundsAt band.val
  let levels ← (List.range 4).mapM fun number => do
    let step ← checkSelector number
    formula.levelAt band.val step
  return bandRow formula band bounds levels

def hueRow (hue : Hue) (code : HueCode) : String :=
  line ("slot=" ++ column 2 (hue.val + 1) ++ " code=0b" ++ binary 6 code.pack.toNat ++ " r=" ++
    decimal code.red.val ++ " g=" ++ decimal code.green.val ++ " b=" ++ decimal code.blue.val)

def hueRowAt (formula : Formula) (hue : Hue) : Except DomainFault String := do
  let code ← formula.hueCodeAt (hue.val + 1)
  return hueRow hue code

def formulaNames (formula : Formula) : String :=
  line ("formula_id    = " ++ formula.fingerprint) ++
    line ("standard      = " ++ if formula.isStandard then "true" else "false") ++
    line ("palette_crc32 = " ++ checksumText (paletteChecksum formula.palette))

def tintText (index : Index) (color base : Rgb) (tinted : Rgb) : String :=
  line ("index  = " ++ decimal index.number) ++ line ("color  = " ++ color.text) ++
    line ("base   = " ++ base.text) ++ line ("tinted = " ++ tinted.text)

end BandedPalette.Command
