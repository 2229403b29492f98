import BandedPalette.Color
import BandedPalette.Formula.Tables
namespace BandedPalette

structure Formula where
  tables : Tables
  sound : tables.Sound
deriving DecidableEq, Repr

structure Bounds where
  low : UInt16
  high : UInt16
deriving DecidableEq, Repr

namespace Formula

def ofTables (tables : Tables) : Except TableFault Formula :=
  match checked : tables.fault? with
  | none => .ok ⟨tables, Tables.fault?_eq_none_iff.mp checked⟩
  | some fault => .error fault

theorem ofTables_eq_ok_iff {tables : Tables} {formula : Formula} :
    ofTables tables = .ok formula ↔ formula.tables = tables := by
  unfold ofTables
  split
  · simp only [Except.ok.injEq]
    exact ⟨fun same => by rw [← same], fun same => by cases formula; cases same; rfl⟩
  · rename_i fault found
    simp only [reduceCtorEq, false_iff]
    rintro rfl
    rw [Tables.fault?_eq_none_iff.mpr formula.sound] at found
    cases found

theorem ofTables_eq_error_iff {tables : Tables} {fault : TableFault} :
    ofTables tables = .error fault ↔ tables.fault? = some fault := by
  unfold ofTables
  split
  · rename_i passed
    simp [passed]
  · rename_i other found
    simp [found]

def standardTables : Tables where
  base := #v[192, 144, 96, 64, 0, 0, 0]
  top := #v[256, 192, 192, 192, 256, 192, 128]
  hueCodes :=
    #v[0b110100, 0b111000, 0b111100, 0b101100, 0b011100, 0b001100, 0b001101, 0b001110, 0b001111,
      0b001011, 0b000111, 0b000011, 0b010011, 0b100011, 0b110011, 0b110010, 0b110001, 0b110000]

def standard : Formula :=
  ⟨standardTables, Tables.fault?_eq_none_iff.mp (by decide)⟩

def isStandard (formula : Formula) : Bool :=
  formula = standard

/-- The channel levels of a band.  A lower bound of zero stands for level
zero, as one does. -/
def bounds (formula : Formula) (band : Band) : Bounds where
  low :=
    if formula.tables.baseOf band = 0 then 0 else formula.tables.baseOf band - 1
  high := formula.tables.topOf band - 1

/-- The level a number of thirds of the way from the lower to the upper bound,
rounded down. -/
def level (formula : Formula) (band : Band) (step : Selector) : UInt8 :=
  let bounds := formula.bounds band
  (bounds.low + (bounds.high - bounds.low) * UInt16.ofNat step.val / 3).toUInt8

def hueCode (formula : Formula) (hue : Hue) : HueCode :=
  HueCode.unpack (formula.tables.codeOf hue)

def boundsAt (formula : Formula) (band : Nat) : Except DomainFault Bounds :=
  (checkBand band).map formula.bounds

def levelAt (formula : Formula) (band : Nat) (step : Selector) : Except DomainFault UInt8 :=
  (checkBand band).map fun band => formula.level band step

def hueCodeAt (formula : Formula) (slot : Nat) : Except DomainFault HueCode :=
  (checkHue slot).map formula.hueCode

end Formula

/-- The gray of a band: an even step of a ramp of seven from white, rounded to
the nearest level.  No step falls half-way between two levels. -/
def grayLevel (band : Band) : UInt8 :=
  let steps := UInt32.ofNat (7 - band.val)
  ((2 * 255 * steps + 7) / 14).toUInt8

def grayLevelAt (band : Nat) : Except DomainFault UInt8 :=
  (checkBand band).map grayLevel

abbrev Encoder := Index → Rgb

def Encoder.palette (encoder : Encoder) : List Rgb :=
  Index.all.map encoder

/-- The colour of a place: its band's gray, or the three levels that its hue
code selects between the bounds of its band. -/
def Formula.encode (formula : Formula) (index : Index) : Rgb :=
  match index.hue? with
  | none => Rgb.gray (grayLevel index.band)
  | some hue =>
      let code := formula.hueCode hue
      ⟨formula.level index.band code.red, formula.level index.band code.green,
        formula.level index.band code.blue⟩

def Formula.palette (formula : Formula) : List Rgb :=
  Encoder.palette formula.encode

@[simp] theorem Encoder.length_palette (encoder : Encoder) : encoder.palette.length = 133 := by
  simp [Encoder.palette]

end BandedPalette
