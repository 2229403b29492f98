import BandedPalette.Color.Tint
namespace BandedPalette.Rgb

/-- The words of a scaled level and the numbers they stand for. -/
structure Scales (base level scaled : UInt8) : Prop where
  product_eq : (base.toUInt16 * level.toUInt16).toNat = base.toNat * level.toNat
  quotient_fits : base.toNat * level.toNat / 255 < UInt8.size
  cast_eq : scaled.toUInt16 = base.toUInt16 * level.toUInt16 / 255
  scaled_eq : scaled.toNat = base.toNat * level.toNat / 255

section Levels

variable (base level : UInt8)

theorem product_le : base.toNat * level.toNat ≤ 255 * 255 :=
  Nat.mul_le_mul (Nat.le_of_lt_succ base.toNat_lt) (Nat.le_of_lt_succ level.toNat_lt)

theorem toNat_levelProduct :
    (base.toUInt16 * level.toUInt16).toNat = base.toNat * level.toNat := by
  have bound := product_le base level
  rw [UInt16.toNat_mul, UInt8.toNat_toUInt16, UInt8.toNat_toUInt16]
  exact Nat.mod_eq_of_lt (by omega)

theorem toNat_levelQuotient :
    (base.toUInt16 * level.toUInt16 / 255).toNat = base.toNat * level.toNat / 255 := by
  rw [UInt16.toNat_div, toNat_levelProduct]
  rfl

theorem quotient_le : base.toNat * level.toNat / 255 ≤ 255 :=
  Nat.div_le_of_le_mul (product_le base level)

theorem toNat_scaleLevel : (scaleLevel base level).toNat = base.toNat * level.toNat / 255 := by
  have bound := quotient_le base level
  rw [scaleLevel, UInt16.toNat_toUInt8, toNat_levelQuotient]
  exact Nat.mod_eq_of_lt (by omega)

theorem scales_scaleLevel : Scales base level (scaleLevel base level) where
  product_eq := toNat_levelProduct base level
  quotient_fits := Nat.lt_succ_of_le (quotient_le base level)
  cast_eq := by
    rw [← UInt16.toNat_inj, UInt8.toNat_toUInt16, toNat_scaleLevel, toNat_levelQuotient]
  scaled_eq := toNat_scaleLevel base level

theorem scaleLevel_comm : scaleLevel base level = scaleLevel level base := by
  rw [← UInt8.toNat_inj, toNat_scaleLevel, toNat_scaleLevel, Nat.mul_comm]

theorem scaleLevel_le_left : scaleLevel base level ≤ base := by
  have bound : level.toNat ≤ 255 := Nat.le_of_lt_succ level.toNat_lt
  rw [UInt8.le_iff_toNat_le, toNat_scaleLevel]
  exact Nat.div_le_of_le_mul (Nat.mul_comm 255 _ ▸ Nat.mul_le_mul_left _ bound)

theorem scaleLevel_le_right : scaleLevel base level ≤ level :=
  scaleLevel_comm base level ▸ scaleLevel_le_left level base

end Levels

theorem scaleLevel_le_scaleLevel {dim bright low high : UInt8} (bases : dim ≤ bright)
    (levels : low ≤ high) : scaleLevel dim low ≤ scaleLevel bright high := by
  rw [UInt8.le_iff_toNat_le] at bases levels
  rw [UInt8.le_iff_toNat_le, toNat_scaleLevel, toNat_scaleLevel]
  exact Nat.div_le_div_right (Nat.mul_le_mul bases levels)

/-- Any base but the brightest takes something from any level but zero. -/
theorem scaleLevel_eq_self_iff {base level : UInt8} :
    scaleLevel base level = level ↔ base = 255 ∨ level = 0 := by
  have bound := base.toNat_lt
  rw [← UInt8.toNat_inj, ← UInt8.toNat_inj, ← UInt8.toNat_inj, toNat_scaleLevel]
  change _ ↔ base.toNat = 255 ∨ level.toNat = 0
  constructor
  · intro kept
    by_cases white : base.toNat = 255
    · exact .inl white
    · refine .inr (Nat.eq_zero_of_not_pos fun seen => ?_)
      -- A level that is kept is at most the exact quotient, which a smaller base keeps below it.
      have exact : level.toNat * 255 ≤ base.toNat * level.toNat :=
        (Nat.le_div_iff_mul_le (by decide)).mp (Nat.le_of_eq kept.symm)
      have less : base.toNat * level.toNat < 255 * level.toNat :=
        Nat.mul_lt_mul_of_pos_right (by omega) seen
      omega
  · intro kept
    rcases kept with white | black
    · rw [white, Nat.mul_div_cancel_left _ (by decide)]
    · rw [black, Nat.mul_zero, Nat.zero_div]

theorem channel_tint (base color : Rgb) (which : Channel) :
    (base.tint color).channel which = scaleLevel (base.channel which) (color.channel which) := by
  cases which <;> rfl

theorem isAchromatic_iff_channels {color : Rgb} :
    color.isAchromatic = true ↔ ∀ left right, color.channel left = color.channel right := by
  rw [isAchromatic, Bool.and_eq_true, beq_iff_eq, beq_iff_eq]
  constructor
  · intro adjacent left right
    obtain ⟨front, back⟩ := adjacent
    cases left <;> cases right <;> simp [channel, front, back]
  · intro same
    exact ⟨same .red .green, same .green .blue⟩

theorem tint_eq_self_iff {base color : Rgb} :
    base.tint color = color ↔ ∀ which, base.channel which = 255 ∨ color.channel which = 0 := by
  simp only [← scaleLevel_eq_self_iff, ← channel_tint]
  constructor
  · intro same which
    rw [same]
  · exact ext_channel

theorem tint_eq_self_of_all_iff {base : Rgb} :
    (∀ color, base.tint color = color) ↔ base = gray 255 := by
  constructor
  · intro kept
    apply ext_channel
    intro which
    -- White itself is kept only by a base that is white in every channel.
    have white := tint_eq_self_iff.mp (kept (gray 255)) which
    cases which <;> exact white.resolve_right (by decide)
  · intro white color
    subst white
    refine tint_eq_self_iff.mpr fun which => .inl ?_
    cases which <;> rfl

/-- A tint is the floor of the exact product over the greatest level, in every
channel.  It treats base and colour alike, keeps their order and brightens neither
of them; grays give a gray.  It leaves a channel as it is only if the base is at its
brightest there or the colour has nothing to lose. -/
theorem tint_attenuates :
    (∀ (base color : Rgb) (which : Channel),
      Scales (base.channel which) (color.channel which) ((base.tint color).channel which)) ∧
    (∀ base color : Rgb, base.tint color = color.tint base) ∧
    (∀ (dim bright low high : Rgb) (which : Channel),
      dim.channel which ≤ bright.channel which → low.channel which ≤ high.channel which →
        (dim.tint low).channel which ≤ (bright.tint high).channel which) ∧
    (∀ (base color : Rgb) (which : Channel),
      (base.tint color).channel which ≤ base.channel which ∧
        (base.tint color).channel which ≤ color.channel which) ∧
    (∀ base color : Rgb, base.isAchromatic = true → color.isAchromatic = true →
      (base.tint color).isAchromatic = true) ∧
    (∀ base color : Rgb, base.tint color = color ↔
      ∀ which, base.channel which = 255 ∨ color.channel which = 0) ∧
    ∀ base : Rgb, (∀ color, base.tint color = color) ↔ base = gray 255 := by
  refine ⟨?words, ?alike, ?ordered, ?dimmed, ?grays, fun _ _ => tint_eq_self_iff,
    fun _ => tint_eq_self_of_all_iff⟩
  case words =>
    intro base color which
    rw [channel_tint]
    exact scales_scaleLevel _ _
  case alike =>
    intro base color
    apply ext_channel
    intro which
    rw [channel_tint, channel_tint, scaleLevel_comm]
  case ordered =>
    intro dim bright low high which bases levels
    rw [channel_tint, channel_tint]
    exact scaleLevel_le_scaleLevel bases levels
  case dimmed =>
    intro base color which
    rw [channel_tint]
    exact ⟨scaleLevel_le_left _ _, scaleLevel_le_right _ _⟩
  case grays =>
    intro base color gray colorless
    rw [isAchromatic_iff_channels] at gray colorless ⊢
    intro left right
    rw [channel_tint, channel_tint, gray left right, colorless left right]

theorem tint_attenuates_dimmed :
    ((gray 127).tint ⟨255, 191, 1⟩).channel .green ≤
        ((gray 128).tint ⟨255, 191, 1⟩).channel .green ∧
      ((gray 128).tint (gray 191)).isAchromatic = true := by
  obtain ⟨_, _, ordered, _, grays, _⟩ := tint_attenuates
  exact ⟨ordered _ _ _ _ .green (by decide) (by decide), grays _ _ (by decide) (by decide)⟩

end BandedPalette.Rgb
