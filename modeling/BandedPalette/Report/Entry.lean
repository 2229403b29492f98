import BandedPalette.Color
import BandedPalette.Index
namespace BandedPalette

structure Difference where
  red : Int16
  green : Int16
  blue : Int16
deriving DecidableEq, Repr

namespace Difference

def channel (difference : Difference) : Channel → Int16
  | .red => difference.red
  | .green => difference.green
  | .blue => difference.blue

def toList (difference : Difference) : List Int16 :=
  [difference.red, difference.green, difference.blue]

def zero : Difference :=
  ⟨0, 0, 0⟩

/-- Channel levels as sixteen-bit words; their difference never overflows. -/
def ofColors (computed reference : Rgb) : Difference :=
  let difference (which : Channel) : Int16 :=
    (computed.channel which).toUInt16.toInt16 - (reference.channel which).toUInt16.toInt16
  ⟨difference .red, difference .green, difference .blue⟩

end Difference

/-- The size of a signed word.  The least word has a size that is no signed
word. -/
def errorSize (value : Int16) : Nat :=
  value.toInt.natAbs

structure Entry where
  index : Index
  computed : Rgb
  reference : Rgb
  error : Difference
deriving DecidableEq, Repr

namespace Entry

def compare (index : Index) (computed reference : Rgb) : Entry :=
  ⟨index, computed, reference, Difference.ofColors computed reference⟩

def isExact (entry : Entry) : Bool :=
  entry.error = Difference.zero

def maxSize (entry : Entry) : Nat :=
  max (max (errorSize entry.error.red) (errorSize entry.error.green)) (errorSize entry.error.blue)

/-- Whether an entry is listed no later than another: the larger error first,
the lower index of two equal ones. -/
def precedes (left right : Entry) : Bool :=
  right.maxSize < left.maxSize ||
    (left.maxSize == right.maxSize && left.index.number ≤ right.index.number)

end Entry

end BandedPalette
