import BandedPalette.Checksum
import BandedPalette.Digest
import BandedPalette.Formula
namespace BandedPalette

def wordOctets (word : UInt16) : List UInt8 :=
  [word.toUInt8, (word >>> 8).toUInt8]

theorem length_flatMap_wordOctets (words : List UInt16) :
    (words.flatMap wordOctets).length = 2 * words.length := by
  induction words with
  | nil => rfl
  | cons word rest ih =>
      simp only [List.flatMap_cons, List.length_append, ih, wordOctets, List.length_cons,
        List.length_nil]
      omega

namespace Tables

/-- The tables as bytes: lower bounds, upper bounds, hue codes. -/
def canonical (tables : Tables) : List UInt8 :=
  (tables.base.toList ++ tables.top.toList).flatMap wordOctets ++ tables.hueCodes.toList

@[simp] theorem length_canonical (tables : Tables) : tables.canonical.length = 46 := by
  simp only [canonical, List.length_append, length_flatMap_wordOctets, Vector.length_toList,
    Nat.reduceAdd, Nat.reduceMul]

end Tables

namespace Formula

/-- The first sixteen bytes of the digest of the tables, in hexadecimal. -/
def fingerprint (formula : Formula) : String :=
  Numeral.hexBytes
    ((Digest.ofBlock formula.tables.canonical (by rw [Tables.length_canonical]; decide)).take 16)

end Formula

def paletteChecksum (colors : List Rgb) : BitVec 32 :=
  Checksum.ofBytes (colors.flatMap Rgb.toBytes)

def checksumText (check : BitVec 32) : String :=
  Numeral.hex 8 check.toNat

end BandedPalette
