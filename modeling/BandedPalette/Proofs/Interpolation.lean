import Mathlib.Order.Fin.Basic
import BandedPalette.Proofs.Encoding
namespace BandedPalette

def Bounds.width (bounds : Bounds) : Nat :=
  bounds.high.toNat - bounds.low.toNat

namespace Formula

section Levels

variable (formula : Formula) (band : Band)

def levels (step : Selector) : Nat :=
  (formula.level band step).toNat

def rise (third : Fin 3) : Int :=
  formula.levels band third.succ - formula.levels band third.castSucc

theorem levels_eq (step : Selector) :
    formula.levels band step =
      (formula.bounds band).low.toNat + (formula.bounds band).width * step.val / 3 :=
  formula.toNat_level band step

theorem levels_zero : formula.levels band 0 = (formula.bounds band).low.toNat := by
  simp [levels_eq]

theorem levels_three : formula.levels band 3 = (formula.bounds band).high.toNat := by
  have ordered := UInt16.le_iff_toNat_le.mp (formula.low_le_high band)
  have whole : (3 : Selector).val = 3 := rfl
  rw [levels_eq, whole, Nat.mul_div_cancel _ (by decide), Bounds.width]
  omega

theorem levels_monotone : Monotone (formula.levels band) := by
  intro lower upper ordered
  rw [levels_eq, levels_eq]
  exact Nat.add_le_add_left (Nat.div_le_div_right (Nat.mul_le_mul_left _ ordered)) _

/-- A step is a third of the width, rounded down or up. -/
theorem rise_near_third (third : Fin 3) :
    ((formula.bounds band).width / 3 : Nat) ≤ formula.rise band third ∧
      formula.rise band third ≤ ((formula.bounds band).width / 3 : Nat) + 1 := by
  rw [rise, levels_eq, levels_eq, Fin.val_succ, Fin.val_castSucc, Nat.mul_succ]
  omega

theorem rises_near (third other : Fin 3) :
    (formula.rise band third - formula.rise band other).natAbs ≤ 1 := by
  have here := formula.rise_near_third band third
  have there := formula.rise_near_third band other
  omega

theorem levels_strictMono_iff :
    StrictMono (formula.levels band) ↔ 3 ≤ (formula.bounds band).width := by
  rw [Fin.strictMono_iff_lt_succ]
  constructor
  · intro rising
    have first : formula.levels band 0 < formula.levels band 1 := rising 0
    have second : formula.levels band 1 < formula.levels band 2 := rising 1
    have third : formula.levels band 2 < formula.levels band 3 := rising 2
    -- Three steps of a level or more lead from one bound to the other.
    rw [levels_zero] at first
    rw [levels_three] at third
    rw [Bounds.width]
    omega
  · intro wide third
    have least := (formula.rise_near_third band third).1
    rw [rise] at least
    omega

end Levels

section Hues

variable {formula : Formula} {index : Index} {hue : Hue}

/-- In a band of four different levels the channels compare as their selectors do. -/
theorem cmp_channels (wide : 3 ≤ (formula.bounds index.band).width)
    (found : index.hue? = some hue) (left right : Channel) :
    cmp ((formula.encode index).channel left).toNat ((formula.encode index).channel right).toNat =
      cmp ((formula.hueCode hue).selector left) ((formula.hueCode hue).selector right) := by
  rw [formula.channel_encode found, formula.channel_encode found]
  exact ((formula.levels_strictMono_iff index.band).mpr wide).cmp_map_eq _ _

theorem channel_eq_iff (wide : 3 ≤ (formula.bounds index.band).width)
    (found : index.hue? = some hue) (left right : Channel) :
    (formula.encode index).channel left = (formula.encode index).channel right ↔
      (formula.hueCode hue).selector left = (formula.hueCode hue).selector right := by
  rw [formula.channel_encode found, formula.channel_encode found, ← UInt8.toNat_inj]
  exact ((formula.levels_strictMono_iff index.band).mpr wide).injective.eq_iff

theorem isAchromatic_iff (wide : 3 ≤ (formula.bounds index.band).width)
    (found : index.hue? = some hue) :
    (formula.encode index).isAchromatic ↔
      (formula.hueCode hue).red = (formula.hueCode hue).green ∧
        (formula.hueCode hue).green = (formula.hueCode hue).blue := by
  rw [Rgb.isAchromatic, Bool.and_eq_true, beq_iff_eq, beq_iff_eq]
  exact and_congr (channel_eq_iff wide found .red .green) (channel_eq_iff wide found .green .blue)

end Hues

theorem level_le_level {left right : Formula} {band : Band}
    (low : (left.bounds band).low ≤ (right.bounds band).low)
    (high : (left.bounds band).high ≤ (right.bounds band).high) (step : Selector) :
    left.level band step ≤ right.level band step := by
  rw [UInt16.le_iff_toNat_le] at low high
  -- A lower bound that is raised makes every step smaller, so the sum is not compared term by
  -- term.  In the mean both bounds have weights that are not negative.
  have below : (0 : Int) ≤ 3 - step.val := by omega
  have lower := Int.mul_le_mul_of_nonneg_left (Int.ofNat_le.mpr low) below
  have upper := Int.mul_le_mul_of_nonneg_left (Int.ofNat_le.mpr high) (Int.natCast_nonneg step.val)
  rw [UInt8.le_iff_toNat_le, ← Int.ofNat_le, exactLevel_eq, exactLevel_eq,
    Tables.exactLevel_eq_mean, Tables.exactLevel_eq_mean, ← lowLevel_eq, ← lowLevel_eq,
    ← highLevel_eq, ← highLevel_eq]
  exact Int.ediv_le_ediv (by decide) (Int.add_le_add lower upper)

/-- The levels of a band between its bounds, in the order of their steps. -/
structure Interpolates (formula : Formula) (band : Band) : Prop where
  bounds_ok : formula.boundsAt band.val = .ok (formula.bounds band)
  level_ok : ∀ step, formula.levelAt band.val step = .ok (formula.level band step)
  monotone : Monotone (formula.levels band)
  first : formula.levels band 0 = (formula.bounds band).low.toNat
  last : formula.levels band 3 = (formula.bounds band).high.toNat
  rises_near : ∀ third other, (formula.rise band third - formula.rise band other).natAbs ≤ 1
  strict_iff : StrictMono (formula.levels band) ↔ 3 ≤ (formula.bounds band).width

theorem interpolates (formula : Formula) (band : Band) : formula.Interpolates band where
  bounds_ok := (formula.exact band 0).bounds_ok
  level_ok := fun step => (formula.exact band step).level_ok
  monotone := formula.levels_monotone band
  first := formula.levels_zero band
  last := formula.levels_three band
  rises_near := formula.rises_near band
  strict_iff := formula.levels_strictMono_iff band

/-- Levels are in the order of their steps.  Where the bounds of a band are three
levels apart or more, the channels of a hue are in the order of its code, and it
is a gray only if the code is one.  No level is lowered when the bounds of its band
are raised. -/
theorem levels_keep_order :
    (∀ (formula : Formula) (band : Band), formula.Interpolates band) ∧
      (∀ (formula : Formula) (index : Index), 0 < index.slot.val →
        3 ≤ (formula.bounds index.band).width →
          ∃ code, formula.hueCodeAt index.slot.val = .ok code ∧
            (∀ left right,
              cmp ((formula.encode index).channel left).toNat
                  ((formula.encode index).channel right).toNat =
                cmp (code.selector left) (code.selector right)) ∧
            ((formula.encode index).isAchromatic ↔
              code.red = code.green ∧ code.green = code.blue)) ∧
      ∀ (left right : Formula) (band : Band),
        (left.bounds band).low ≤ (right.bounds band).low →
          (left.bounds band).high ≤ (right.bounds band).high →
            ∀ step, left.level band step ≤ right.level band step := by
  refine ⟨interpolates, ?_, ?_⟩
  · intro formula index positive wide
    cases found : index.hue? with
    | none => exact absurd (Index.hue?_eq_none_iff.mp found) (Nat.ne_of_gt positive)
    | some hue =>
        exact ⟨formula.hueCode hue, formula.hueCodeAt_slot found, cmp_channels wide found,
          isAchromatic_iff wide found⟩
  · intro left right band low high step
    exact level_le_level low high step

def narrowed : Formula :=
  ⟨{ standardTables with
      base := #v[192, 190, 96, 64, 0, 0, 0]
      top := #v[256, 194, 192, 192, 256, 192, 128] },
    Tables.fault?_eq_none_iff.mp (by decide)⟩

theorem levels_keep_order_narrowed :
    narrowed.Interpolates 1 ∧ (narrowed.bounds 1).width = 4 ∧
      (∃ code, narrowed.hueCodeAt 1 = .ok code ∧
        (∀ left right,
          cmp ((narrowed.encode ⟨20⟩).channel left).toNat
              ((narrowed.encode ⟨20⟩).channel right).toNat =
            cmp (code.selector left) (code.selector right)) ∧
        ((narrowed.encode ⟨20⟩).isAchromatic ↔
          code.red = code.green ∧ code.green = code.blue)) ∧
      (standard.bounds 1).width = 48 ∧ ∀ step, standard.level 1 step ≤ narrowed.level 1 step := by
  obtain ⟨between, ordered, raised⟩ := levels_keep_order
  exact ⟨between narrowed 1, by decide, ordered narrowed ⟨20⟩ (by decide) (by decide), by decide,
    raised standard narrowed 1 (by decide) (by decide)⟩

end Formula

end BandedPalette
