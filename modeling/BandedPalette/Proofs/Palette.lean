import BandedPalette.Proofs.Interpolation
import BandedPalette.Proofs.Report.Comparison
namespace BandedPalette

def Index.ofHue (band : Band) (hue : Hue) : Index :=
  ⟨⟨19 * band.val + (hue.val + 1), by omega⟩⟩

theorem Index.band_ofHue (band : Band) (hue : Hue) : (ofHue band hue).band = band := by
  apply Fin.ext
  simp only [Index.band, number, ofHue]
  omega

theorem Index.hue?_ofHue (band : Band) (hue : Hue) : (ofHue band hue).hue? = some hue := by
  rw [hue?_eq_some_iff]
  simp only [slot, number, ofHue]
  omega

theorem Bounds.eq_iff {left right : Bounds} :
    left = right ↔
      left.low.toNat = right.low.toNat ∧ left.high.toNat = right.high.toNat := by
  rw [UInt16.toNat_inj, UInt16.toNat_inj, ← Bounds.mk.injEq]

namespace Formula

variable {left right : Formula} {band : Band}

/-- Only a lower bound of zero is lost, and it is taken for one. -/
theorem bounds_eq_iff :
    left.bounds band = right.bounds band ↔
      left.tables.topOf band = right.tables.topOf band ∧
        (left.tables.baseOf band = right.tables.baseOf band ∨
          left.tables.baseOf band ≤ 1 ∧ right.tables.baseOf band ≤ 1) := by
  have positive := UInt16.lt_iff_toNat_lt.mp (left.sound.top_pos band)
  have positiveToo := UInt16.lt_iff_toNat_lt.mp (right.sound.top_pos band)
  rw [Bounds.eq_iff, toNat_low, toNat_low, toNat_high, toNat_high, ← UInt16.toNat_inj,
    ← UInt16.toNat_inj, UInt16.le_iff_toNat_le, UInt16.le_iff_toNat_le]
  simp only [UInt16.reduceToNat] at *
  omega

/-- Encoders that agree on a hue agree in every band on the levels that it takes. -/
theorem levels_eq_of_encode (same : left.encode = right.encode) {hue : Hue}
    (codes : left.hueCode hue = right.hueCode hue) {which : Channel} {step : Selector}
    (taken : (left.hueCode hue).selector which = step) (band : Band) :
    left.levels band step = right.levels band step := by
  have found := Index.hue?_ofHue band hue
  have channels : (left.encode (.ofHue band hue)).channel which =
      (right.encode (.ofHue band hue)).channel which := by rw [same]
  rw [left.channel_encode found, right.channel_encode found, ← codes, taken,
    Index.band_ofHue] at channels
  exact congrArg UInt8.toNat channels

section Shared

variable (codes : left.tables.hueCodes = right.tables.hueCodes)
  (lowest : ∃ hue which, (left.hueCode hue).selector which = 0)
  (highest : ∃ hue which, (left.hueCode hue).selector which = 3)

include codes in
theorem hueCode_congr (hue : Hue) : left.hueCode hue = right.hueCode hue := by
  rw [hueCode, hueCode, Tables.codeOf, Tables.codeOf, codes]

include codes lowest highest in
theorem palette_eq_iff_bounds :
    left.palette = right.palette ↔ ∀ band, left.bounds band = right.bounds band := by
  rw [palette, palette, Encoder.palette_inj]
  constructor
  · intro same band
    obtain ⟨dark, darkest, first⟩ := lowest
    obtain ⟨bright, brightest, last⟩ := highest
    -- The same two hues stand in every band, so each band shows both of its bounds.
    have low := levels_eq_of_encode same (hueCode_congr codes dark) first band
    have high := levels_eq_of_encode same (hueCode_congr codes bright) last band
    rw [levels_zero, levels_zero] at low
    rw [levels_three, levels_three] at high
    exact Bounds.eq_iff.mpr ⟨low, high⟩
  · intro same
    funext index
    exact encode_congr (same index.band) fun hue _ => hueCode_congr codes hue

end Shared

/-- Formulas of the same hues, of which some channel takes the lower bound and
some channel the upper one, have one palette exactly if their bounds are the same
but for zero and one. -/
theorem palette_determines_tables (left right : Formula)
    (codes : left.tables.hueCodes = right.tables.hueCodes)
    (lowest : ∃ hue which, (left.hueCode hue).selector which = 0)
    (highest : ∃ hue which, (left.hueCode hue).selector which = 3) :
    left.palette = right.palette ↔
      ∀ band, left.tables.topOf band = right.tables.topOf band ∧
        (left.tables.baseOf band = right.tables.baseOf band ∨
          left.tables.baseOf band ≤ 1 ∧ right.tables.baseOf band ≤ 1) := by
  rw [palette_eq_iff_bounds codes lowest highest]
  exact forall_congr' fun _ => bounds_eq_iff

def unlit : Formula :=
  ⟨{ standardTables with base := #v[192, 144, 96, 64, 1, 0, 1] },
    Tables.fault?_eq_none_iff.mp (by decide)⟩

def lit : Formula :=
  ⟨{ standardTables with base := #v[192, 144, 96, 64, 2, 0, 0] },
    Tables.fault?_eq_none_iff.mp (by decide)⟩

theorem palette_determines_tables_unlit :
    standard.tables.hueCodes = unlit.tables.hueCodes ∧
      standard.tables.hueCodes = lit.tables.hueCodes ∧
      (∃ hue which, (standard.hueCode hue).selector which = 0) ∧
      (∃ hue which, (standard.hueCode hue).selector which = 3) ∧
      standard ≠ unlit ∧ standard.palette = unlit.palette ∧ standard.palette ≠ lit.palette := by
  have lowest : ∃ hue which, (standard.hueCode hue).selector which = 0 := ⟨0, .blue, by decide⟩
  have highest : ∃ hue which, (standard.hueCode hue).selector which = 3 := ⟨0, .red, by decide⟩
  have saturated := palette_determines_tables standard unlit rfl lowest highest
  have raised := palette_determines_tables standard lit rfl lowest highest
  refine ⟨rfl, rfl, lowest, highest, by decide, saturated.mpr (by decide), ?_⟩
  intro same
  have lower := (raised.mp same 4).2
  revert lower
  decide

end Formula

end BandedPalette
