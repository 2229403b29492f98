import BandedPalette.Json.Value
import BandedPalette.Report
namespace BandedPalette

open Json (Value)

def Rgb.toValue (color : Rgb) : Value :=
  .record
    [("r", .natural color.red.toNat), ("g", .natural color.green.toNat),
      ("b", .natural color.blue.toNat)]

def Entry.toValue (entry : Entry) : Value :=
  .record
    [("index", .natural entry.index.number), ("computed", entry.computed.toValue),
      ("reference", entry.reference.toValue),
      ("error", .list (entry.error.toList.map fun error => .integer error.toInt))]

def Summary.fields (summary : Summary) : List (String × Value) :=
  [("mae", .real summary.meanSize), ("max_error", .integer summary.maxError.toInt),
    ("min_error", .integer summary.minError.toInt), ("non_zero", .natural summary.nonZero.toNat),
    ("total", .natural summary.total.toNat), ("percent_correct", .real summary.percentCorrect)]

def Summary.toValue (summary : Summary) : Value :=
  .record summary.fields

namespace Report

def bandValues (report : Report) : Value :=
  .list (report.bands.map fun (band, summary) =>
    .record (("band", .natural band.val) :: summary.fields))

def toValue (report : Report) : Value :=
  .record
    [("entries", .list (report.entries.map Entry.toValue)), ("summary", report.summary.toValue)]

end Report

def Channel.names : Value :=
  .list (Channel.all.map fun channel => .text channel.name)

end BandedPalette
