import BandedPalette.Formula.Selector
namespace BandedPalette

/-! The numbers a formula is made of, and when they are sound.

Each band has a lower and an upper bound, both one above the channel level they
stand for; each hue has a code.  Sound tables give channel levels without any
clamping: the upper bound is a level plus one, the bounds are in order, and the
codes fit in six bits.
-/

structure Tables where
  base : Vector UInt16 7
  top : Vector UInt16 7
  hueCodes : Vector UInt8 18
deriving DecidableEq, Repr

inductive TableFault where
  | top (band : Band) (value : UInt16)
  | base (band : Band) (value bound : UInt16)
  | hueCode (hue : Hue) (code : UInt8)
deriving DecidableEq, Repr

open Numeral in
def TableFault.detail : TableFault → String
  | .top band value =>
      "top[" ++ decimal band.val ++ "]=" ++ decimal value.toNat ++ " must be in 1..=256"
  | .base band value bound =>
      "base[" ++ decimal band.val ++ "]=" ++ decimal value.toNat ++ " exceeds top[" ++
        decimal band.val ++ "]=" ++ decimal bound.toNat
  | .hueCode hue code =>
      "hue code for slot " ++ decimal (hue.val + 1) ++ " is 0b" ++ binary 0 code.toNat ++
        ", wider than 6 bits"

namespace Tables

def baseOf (tables : Tables) (band : Band) : UInt16 :=
  tables.base[band.val]

def topOf (tables : Tables) (band : Band) : UInt16 :=
  tables.top[band.val]

def codeOf (tables : Tables) (hue : Hue) : UInt8 :=
  tables.hueCodes[hue.val]

structure Sound (tables : Tables) : Prop where
  top_pos : ∀ band, 0 < tables.topOf band
  top_le : ∀ band, tables.topOf band ≤ 256
  base_le : ∀ band, tables.baseOf band ≤ tables.topOf band
  code_le : ∀ hue, tables.codeOf hue ≤ 63

/-- The fault of one band.  The upper bound is looked at before the order. -/
def bandFault? (tables : Tables) (band : Band) : Option TableFault :=
  if tables.topOf band = 0 ∨ 256 < tables.topOf band then some (.top band (tables.topOf band))
  else if tables.topOf band < tables.baseOf band then
    some (.base band (tables.baseOf band) (tables.topOf band))
  else none

def codeFault? (tables : Tables) (hue : Hue) : Option TableFault :=
  if 63 < tables.codeOf hue then some (.hueCode hue (tables.codeOf hue)) else none

/-- The first fault: band by band, and the codes only after all bands. -/
def fault? (tables : Tables) : Option TableFault :=
  ((List.finRange 7).findSome? tables.bandFault?).or
    ((List.finRange 18).findSome? tables.codeFault?)

theorem bandFault?_eq_none_iff {tables : Tables} {band : Band} :
    tables.bandFault? band = none ↔
      0 < tables.topOf band ∧ tables.topOf band ≤ 256 ∧
        tables.baseOf band ≤ tables.topOf band := by
  simp only [bandFault?, UInt16.lt_iff_toNat_lt, UInt16.le_iff_toNat_le, ← UInt16.toNat_inj]
  split
  · rename_i outside
    simp only [reduceCtorEq, false_iff]
    rintro ⟨positive, bounded, _⟩
    simp only [UInt16.reduceToNat] at *
    omega
  · rename_i inside
    simp only [UInt16.reduceToNat] at *
    split
    · simp only [reduceCtorEq, false_iff]
      omega
    · simp only [true_iff]
      omega

theorem codeFault?_eq_none_iff {tables : Tables} {hue : Hue} :
    tables.codeFault? hue = none ↔ tables.codeOf hue ≤ 63 := by
  simp [codeFault?]

theorem fault?_eq_none_iff {tables : Tables} : tables.fault? = none ↔ tables.Sound := by
  simp only [fault?, Option.or_eq_none_iff, List.findSome?_eq_none_iff, List.mem_finRange,
    true_implies, bandFault?_eq_none_iff, codeFault?_eq_none_iff]
  constructor
  · rintro ⟨bands, codes⟩
    exact ⟨fun band => (bands band).1, fun band => (bands band).2.1,
      fun band => (bands band).2.2, codes⟩
  · intro sound
    exact ⟨fun band => ⟨sound.top_pos band, sound.top_le band, sound.base_le band⟩,
      sound.code_le⟩

end Tables

end BandedPalette
