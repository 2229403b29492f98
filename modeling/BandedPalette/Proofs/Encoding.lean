import BandedPalette.Proofs.Levels
namespace BandedPalette

def Channel.shift : Channel → Nat
  | red => 4
  | green => 2
  | blue => 0

/-- The two bits of a packed hue code that belong to a channel. -/
def HueCode.field (code : UInt8) (which : Channel) : Nat :=
  (code.toNat >>> which.shift) % 4

namespace HueCode

theorem val_lowBits (byte : UInt8) : (lowBits byte).val = byte.toNat % 4 := rfl

theorem selector_unpack (code : UInt8) (which : Channel) :
    ((unpack code).selector which).val = field code which := by
  cases which <;>
    simp [unpack, selector, field, Channel.shift, val_lowBits, UInt8.toNat_shiftRight]

end HueCode

/-- A third of the distance at a time is the same as a weighted mean. -/
theorem Tables.exactLevel_eq_mean (tables : Tables) (band : Band) (step : Selector) :
    tables.exactLevel band step =
      ((3 - step.val) * tables.lowLevel band + step.val * tables.highLevel band) / 3 := by
  unfold exactLevel
  rcases step with ⟨thirds, bound⟩
  have cases : thirds = 0 ∨ thirds = 1 ∨ thirds = 2 ∨ thirds = 3 := by omega
  rcases cases with rfl | rfl | rfl | rfl <;> simp only <;> omega

namespace Formula

theorem encode_gray (formula : Formula) {index : Index} (gray : index.slot.val = 0) :
    formula.encode index = Rgb.gray (grayLevel index.band) := by
  simp only [encode, Index.hue?_eq_none_iff.mpr gray]

theorem channel_encode (formula : Formula) {index : Index} {hue : Hue}
    (found : index.hue? = some hue) (which : Channel) :
    (formula.encode index).channel which =
      formula.level index.band ((formula.hueCode hue).selector which) := by
  simp only [encode, found]
  cases which <;> rfl

theorem encode_gray_congr (left right : Formula) {index : Index} (gray : index.slot.val = 0) :
    left.encode index = right.encode index := by
  rw [left.encode_gray gray, right.encode_gray gray]

theorem level_congr {left right : Formula} {band : Band}
    (same : left.bounds band = right.bounds band) (step : Selector) :
    left.level band step = right.level band step := by
  rw [level, level, same]

/-- A colour depends on the bounds of its band and the code of its slot alone. -/
theorem encode_congr {left right : Formula} {index : Index}
    (bounds : left.bounds index.band = right.bounds index.band)
    (codes : ∀ hue, index.hue? = some hue → left.hueCode hue = right.hueCode hue) :
    left.encode index = right.encode index := by
  cases found : index.hue? with
  | none => exact encode_gray_congr left right (Index.hue?_eq_none_iff.mp found)
  | some hue =>
      apply Rgb.ext_channel
      intro which
      rw [left.channel_encode found, right.channel_encode found, codes hue found,
        level_congr bounds]

theorem hueCodeAt_slot (formula : Formula) {index : Index} {hue : Hue}
    (found : index.hue? = some hue) :
    formula.hueCodeAt index.slot.val = .ok (formula.hueCode hue) := by
  have slot := Index.hue?_eq_some_iff.mp found
  simp [hueCodeAt, slot, Except.map]

theorem channel_encode_eq_mean (formula : Formula) {index : Index} {hue : Hue}
    (found : index.hue? = some hue) (which : Channel) :
    (((formula.encode index).channel which).toNat : Int) =
      ((3 - HueCode.field (formula.tables.codeOf hue) which) *
          (formula.bounds index.band).low.toNat +
        HueCode.field (formula.tables.codeOf hue) which *
          (formula.bounds index.band).high.toNat) / 3 := by
  rw [channel_encode formula found, exactLevel_eq, Tables.exactLevel_eq_mean, lowLevel_eq,
    highLevel_eq, hueCode, HueCode.selector_unpack]

/-- A gray place has the gray of its band; any other has in each channel the
mean of its band's bounds that the hue code weighs.  The checked functions agree
with the colour, and so does the palette. -/
theorem encode_eq_mean (formula : Formula) (index : Index) :
    (index.slot.val = 0 →
      ∃ level, grayLevelAt index.band.val = .ok level ∧
        formula.encode index = Rgb.gray level ∧ (formula.encode index).isAchromatic = true) ∧
      (0 < index.slot.val →
        ∃ packed code bounds,
          formula.tables.hueCodes[index.slot.val - 1]? = some packed ∧
            formula.hueCodeAt index.slot.val = .ok code ∧
            formula.boundsAt index.band.val = .ok bounds ∧
            (bounds.low.toNat : Int) = max ((formula.tables.baseOf index.band).toNat : Int) 1 - 1 ∧
            (bounds.high.toNat : Int) = (formula.tables.topOf index.band).toNat - 1 ∧
            ∀ which,
              (code.selector which).val = HueCode.field packed which ∧
                formula.levelAt index.band.val (code.selector which) =
                  .ok ((formula.encode index).channel which) ∧
                (((formula.encode index).channel which).toNat : Int) =
                  ((3 - HueCode.field packed which) * bounds.low.toNat +
                    HueCode.field packed which * bounds.high.toNat) / 3) ∧
      formula.palette.length = 133 ∧
      formula.palette[index.number]? = some (formula.encode index) := by
  refine ⟨?gray, ?hue, ?_, ?_⟩
  case gray =>
    intro gray
    have color := formula.encode_gray gray
    refine ⟨grayLevel index.band, by simp [grayLevelAt, Except.map], color, ?_⟩
    rw [color]
    simp [Rgb.isAchromatic, Rgb.gray]
  case hue =>
    intro positive
    obtain ⟨hue, found⟩ : ∃ hue, index.hue? = some hue := by
      rw [← Option.ne_none_iff_exists', ne_eq, Index.hue?_eq_none_iff]
      omega
    have slot := Index.hue?_eq_some_iff.mp found
    refine ⟨formula.tables.codeOf hue, formula.hueCode hue, formula.bounds index.band, ?_,
      formula.hueCodeAt_slot found, (formula.exact index.band 0).bounds_ok, ?_, ?_, ?_⟩
    · simp [slot, Tables.codeOf]
    · rw [lowLevel_eq, Tables.lowLevel]
      omega
    · rw [highLevel_eq, Tables.highLevel]
    · intro which
      refine ⟨HueCode.selector_unpack _ which, ?_, formula.channel_encode_eq_mean found which⟩
      rw [formula.channel_encode found]
      exact (formula.exact index.band _).level_ok
  · exact Encoder.length_palette formula.encode
  · simp [palette, Encoder.palette, Index.getElem?_all]

end Formula

end BandedPalette
