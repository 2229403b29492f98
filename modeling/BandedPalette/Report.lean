import BandedPalette.Fault
import BandedPalette.Formula
import BandedPalette.Reference
import BandedPalette.Report.Summary
namespace BandedPalette

structure Report where
  entries : List Entry
deriving DecidableEq, Repr

namespace Report

def summary (report : Report) : Summary :=
  Summary.ofEntries report.entries

def bandEntries (report : Report) (band : Band) : List Entry :=
  (report.entries.drop (19 * band.val)).take 19

def bands (report : Report) : List (Band × Summary) :=
  (List.finRange 7).map fun band => (band, Summary.ofEntries (report.bandEntries band))

def series (report : Report) (which : Channel) : List Int16 :=
  report.entries.map fun entry => entry.error.channel which

def ranking (report : Report) : List Entry :=
  (report.entries.filter fun entry => !entry.isExact).mergeSort Entry.precedes

def worst (report : Report) (count : Nat) : List Entry :=
  report.ranking.take count

def compare (reference : List Rgb) (encoder : Encoder) : Except Fault Report :=
  if reference.length = 133 then
    .ok ⟨(Index.all.zip reference).map fun (index, wanted) =>
      Entry.compare index (encoder index) wanted⟩
  else .error (.count reference.length)

def unpackFrom (before : Nat) : List UInt32 → Except Fault (List Rgb)
  | [] => .ok []
  | word :: rest =>
      match Rgb.ofWord word with
      | .error fault => .error (.entry before fault)
      | .ok color => (unpackFrom (before + 1) rest).map (color :: ·)

/-- Compares an encoder with a reference given as words.  A word that is too
wide is reported before a wrong count. -/
def compareWords (reference : List UInt32) (encoder : Encoder) : Except Fault Report :=
  match unpackFrom 0 reference with
  | .error fault => .error fault
  | .ok colors => compare colors encoder

def standard : Except Fault Report :=
  compare Reference.table Formula.standard.encode

end Report

end BandedPalette
