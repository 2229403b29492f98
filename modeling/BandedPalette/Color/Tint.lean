import BandedPalette.Color
namespace BandedPalette.Rgb

/-- The part `base / 255` of a level, rounded down.  The product of two levels
fits in sixteen bits. -/
def scaleLevel (base level : UInt8) : UInt8 :=
  (base.toUInt16 * level.toUInt16 / 255).toUInt8

def tint (base color : Rgb) : Rgb :=
  ⟨scaleLevel base.red color.red, scaleLevel base.green color.green,
    scaleLevel base.blue color.blue⟩

end BandedPalette.Rgb
