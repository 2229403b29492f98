import BandedPalette.Formula.Document
namespace BandedPalette

namespace Tables

/-- The level of a band's lower bound, or level zero below the first level. -/
def lowLevel (tables : Tables) (band : Band) : Int :=
  max ((tables.baseOf band).toNat - 1) 0

def highLevel (tables : Tables) (band : Band) : Int :=
  (tables.topOf band).toNat - 1

/-- The level a number of thirds of the way between the bounds. -/
def exactLevel (tables : Tables) (band : Band) (step : Selector) : Int :=
  tables.lowLevel band + (tables.highLevel band - tables.lowLevel band) * step.val / 3

/-- The gray of a band: the ramp of seven steps, rounded half up. -/
def exactGray (band : Band) : Int :=
  (2 * 255 * (7 - band.val) + 7) / (2 * 7)

def exactChannel (tables : Tables) (index : Index) (which : Channel) : Int :=
  match index.hue? with
  | none => exactGray index.band
  | some hue =>
      tables.exactLevel index.band ((HueCode.unpack (tables.codeOf hue)).selector which)

end Tables

namespace Formula

section Words

variable (formula : Formula) (band : Band) (step : Selector)

theorem toNat_high :
    (formula.bounds band).high.toNat = (formula.tables.topOf band).toNat - 1 := by
  have least : (1 : UInt16) ≤ formula.tables.topOf band :=
    UInt16.le_iff_toNat_le.mpr (UInt16.lt_iff_toNat_lt.mp (formula.sound.top_pos band))
  exact UInt16.toNat_sub_of_le _ _ least

theorem toNat_low :
    (formula.bounds band).low.toNat = (formula.tables.baseOf band).toNat - 1 := by
  by_cases zero : formula.tables.baseOf band = 0
  · simp [bounds, zero]
  · have least : (1 : UInt16) ≤ formula.tables.baseOf band := by
      rw [UInt16.le_iff_toNat_le]
      exact Nat.pos_of_ne_zero fun same => zero (UInt16.toNat_inj.mp same)
    simpa [bounds, zero] using UInt16.toNat_sub_of_le _ _ least

theorem high_le : (formula.bounds band).high.toNat ≤ 255 := by
  have bound : (formula.tables.topOf band).toNat ≤ 256 :=
    UInt16.le_iff_toNat_le.mp (formula.sound.top_le band)
  rw [toNat_high]
  omega

theorem low_le_high : (formula.bounds band).low ≤ (formula.bounds band).high := by
  have ordered := UInt16.le_iff_toNat_le.mp (formula.sound.base_le band)
  rw [UInt16.le_iff_toNat_le, toNat_low, toNat_high]
  omega

theorem toNat_delta :
    ((formula.bounds band).high - (formula.bounds band).low).toNat =
      (formula.bounds band).high.toNat - (formula.bounds band).low.toNat :=
  UInt16.toNat_sub_of_le _ _ (formula.low_le_high band)

theorem toNat_product :
    (((formula.bounds band).high - (formula.bounds band).low) * UInt16.ofNat step.val).toNat =
      ((formula.bounds band).high.toNat - (formula.bounds band).low.toNat) * step.val := by
  have bound := formula.high_le band
  -- Three times the greatest distance is far from the end of a word.
  have thirds : ((formula.bounds band).high.toNat - (formula.bounds band).low.toNat) * step.val ≤
      255 * 3 := Nat.mul_le_mul (by omega) (by omega)
  have small : (UInt16.ofNat step.val).toNat = step.val :=
    UInt16.toNat_ofNat_of_lt' (by simp only [UInt16.size]; omega)
  rw [UInt16.toNat_mul, toNat_delta, small]
  exact Nat.mod_eq_of_lt (by omega)

theorem sum_le_high :
    (formula.bounds band).low.toNat +
      ((formula.bounds band).high.toNat - (formula.bounds band).low.toNat) * step.val / 3 ≤
        (formula.bounds band).high.toNat := by
  have ordered := UInt16.le_iff_toNat_le.mp (formula.low_le_high band)
  have thirds : ((formula.bounds band).high.toNat - (formula.bounds band).low.toNat) * step.val ≤
      ((formula.bounds band).high.toNat - (formula.bounds band).low.toNat) * 3 :=
    Nat.mul_le_mul_left _ (by omega)
  omega

theorem toNat_level :
    (formula.level band step).toNat =
      (formula.bounds band).low.toNat +
        ((formula.bounds band).high.toNat - (formula.bounds band).low.toNat) * step.val / 3 := by
  have bound := formula.high_le band
  have sum := formula.sum_le_high band step
  -- The sum is at most the upper level, so neither it nor the cast loses anything.
  have word : ((formula.bounds band).low + ((formula.bounds band).high -
      (formula.bounds band).low) * UInt16.ofNat step.val / 3).toNat =
      (formula.bounds band).low.toNat +
        ((formula.bounds band).high.toNat - (formula.bounds band).low.toNat) * step.val / 3 := by
    rw [UInt16.toNat_add, UInt16.toNat_div, toNat_product]
    exact Nat.mod_eq_of_lt (by simp only [UInt16.reduceToNat]; omega)
  unfold level
  rw [UInt16.toNat_toUInt8, word]
  exact Nat.mod_eq_of_lt (by omega)

/-- The words of a level and the integers they stand for. -/
structure Exact : Prop where
  top_pos : 0 ≤ formula.tables.highLevel band
  ordered : formula.tables.lowLevel band ≤ formula.tables.highLevel band
  product_fits :
    (formula.tables.highLevel band - formula.tables.lowLevel band) * step.val < UInt16.size
  sum_le : formula.tables.exactLevel band step ≤ formula.tables.highLevel band
  high_fits : formula.tables.highLevel band < UInt8.size
  low_eq : ((formula.bounds band).low.toNat : Int) = formula.tables.lowLevel band
  high_eq : ((formula.bounds band).high.toNat : Int) = formula.tables.highLevel band
  delta_eq :
    (((formula.bounds band).high - (formula.bounds band).low).toNat : Int) =
      formula.tables.highLevel band - formula.tables.lowLevel band
  product_eq :
    ((((formula.bounds band).high - (formula.bounds band).low) *
        UInt16.ofNat step.val).toNat : Int) =
      (formula.tables.highLevel band - formula.tables.lowLevel band) * step.val
  level_eq : ((formula.level band step).toNat : Int) = formula.tables.exactLevel band step
  bounds_ok : formula.boundsAt band.val = .ok (formula.bounds band)
  level_ok : formula.levelAt band.val step = .ok (formula.level band step)

theorem lowLevel_eq :
    ((formula.bounds band).low.toNat : Int) = formula.tables.lowLevel band := by
  rw [toNat_low, Tables.lowLevel]
  omega

theorem highLevel_eq :
    ((formula.bounds band).high.toNat : Int) = formula.tables.highLevel band := by
  have positive := UInt16.lt_iff_toNat_lt.mp (formula.sound.top_pos band)
  simp only [UInt16.reduceToNat] at positive
  rw [toNat_high, Tables.highLevel]
  omega

theorem highLevel_sub_lowLevel :
    (((formula.bounds band).high.toNat - (formula.bounds band).low.toNat : Nat) : Int) =
      formula.tables.highLevel band - formula.tables.lowLevel band := by
  have ordered := UInt16.le_iff_toNat_le.mp (formula.low_le_high band)
  rw [← lowLevel_eq, ← highLevel_eq]
  omega

theorem exactLevel_eq :
    ((formula.level band step).toNat : Int) = formula.tables.exactLevel band step := by
  rw [toNat_level, Tables.exactLevel, ← highLevel_sub_lowLevel, ← lowLevel_eq]
  push_cast
  rfl

theorem exact : formula.Exact band step where
  top_pos := by rw [← highLevel_eq]; omega
  ordered := by
    have ordered := UInt16.le_iff_toNat_le.mp (formula.low_le_high band)
    rw [← lowLevel_eq, ← highLevel_eq]
    omega
  product_fits := by
    have word := UInt16.toNat_lt_size (((formula.bounds band).high -
      (formula.bounds band).low) * UInt16.ofNat step.val)
    rw [toNat_product] at word
    rw [← highLevel_sub_lowLevel]
    exact_mod_cast word
  sum_le := by
    have sum := formula.sum_le_high band step
    rw [← exactLevel_eq, ← highLevel_eq, toNat_level]
    exact_mod_cast sum
  high_fits := by
    have bound := formula.high_le band
    rw [← highLevel_eq]
    simp only [UInt8.size]
    omega
  low_eq := formula.lowLevel_eq band
  high_eq := formula.highLevel_eq band
  delta_eq := by rw [toNat_delta, highLevel_sub_lowLevel]
  product_eq := by
    rw [toNat_product, ← highLevel_sub_lowLevel]
    push_cast
    rfl
  level_eq := formula.exactLevel_eq band step
  bounds_ok := by simp [boundsAt, Except.map]
  level_ok := by simp [levelAt, Except.map]

end Words

theorem exactGray_eq (band : Band) : ((grayLevel band).toNat : Int) = Tables.exactGray band := by
  revert band
  decide

theorem exactChannel_eq (formula : Formula) (index : Index) (which : Channel) :
    (((formula.encode index).channel which).toNat : Int) =
      formula.tables.exactChannel index which := by
  cases hue : index.hue? with
  | none =>
      simp only [encode, Tables.exactChannel, hue]
      cases which <;> exact exactGray_eq index.band
  | some found =>
      simp only [encode, Tables.exactChannel, hue]
      cases which <;> exact formula.exactLevel_eq index.band _

/-- Every way to a formula goes through the check of its tables, and with
tables that pass it the words of bounds, levels and colours never leave their
range: what they compute is the same expression over the integers. -/
theorem words_exact :
    standardTables.fault? = none ∧
      (∀ tables formula, ofTables tables = .ok formula →
        formula.tables = tables ∧ tables.fault? = none) ∧
      (∀ text formula, ofDocument text = .ok formula →
        ∃ tables rest, Document.readTables text.toList = .ok (tables, rest) ∧
          formula.tables = tables ∧ tables.fault? = none) ∧
      ∀ formula : Formula, formula.tables.fault? = none ∧
        (∀ band step, formula.Exact band step) ∧
        ∀ index which, (((formula.encode index).channel which).toNat : Int) =
          formula.tables.exactChannel index which := by
  have checked (formula : Formula) : formula.tables.fault? = none :=
    Tables.fault?_eq_none_iff.mpr formula.sound
  refine ⟨checked standard, ?_, ?_, ?_⟩
  · intro tables formula made
    have same := ofTables_eq_ok_iff.mp made
    exact ⟨same, same ▸ checked formula⟩
  · intro text formula read
    obtain ⟨rest, found, _⟩ := ofChars_eq_ok_iff.mp read
    exact ⟨formula.tables, rest, found, rfl, checked formula⟩
  · intro formula
    exact ⟨checked formula, formula.exact, formula.exactChannel_eq⟩

end Formula

end BandedPalette
