import BandedPalette.Report.Entry
namespace BandedPalette

structure Summary where
  absoluteSum : UInt64
  maxError : Int16
  minError : Int16
  nonZero : UInt64
  total : UInt64
deriving DecidableEq, Repr

namespace Summary

/-- What a tally starts from; its extremes give way to any value. -/
def start : Summary where
  absoluteSum := 0
  maxError := Int16.minValue
  minError := Int16.maxValue
  nonZero := 0
  total := 0

def empty : Summary where
  absoluteSum := 0
  maxError := 0
  minError := 0
  nonZero := 0
  total := 0

def add (summary : Summary) (value : Int16) : Summary where
  absoluteSum := summary.absoluteSum + UInt64.ofNat (errorSize value)
  maxError := max summary.maxError value
  minError := min summary.minError value
  nonZero := if value = 0 then summary.nonZero else summary.nonZero + 1
  total := summary.total + 1

def ofValues (values : List Int16) : Summary :=
  if values.isEmpty then empty else values.foldl add start

def values (entries : List Entry) : List Int16 :=
  entries.flatMap fun entry => entry.error.toList

def ofEntries (entries : List Entry) : Summary :=
  ofValues (values entries)

def meanSize (summary : Summary) : Float :=
  if summary.total = 0 then 0.0
  else summary.absoluteSum.toFloat / summary.total.toFloat

def percentCorrect (summary : Summary) : Float :=
  if summary.total = 0 then 100.0
  else 100.0 * (1.0 - summary.nonZero.toFloat / summary.total.toFloat)

def maxSize (summary : Summary) : Nat :=
  max (errorSize summary.maxError) (errorSize summary.minError)

end Summary

end BandedPalette
