import BandedPalette.Color
namespace BandedPalette.Rgb

/-- The number with the levels as its three digits. -/
def number (color : Rgb) : Nat :=
  color.red.toNat * 65536 + color.green.toNat * 256 + color.blue.toNat

theorem number_lt (color : Rgb) : color.number < 16777216 := by
  have red := color.red.toNat_lt
  have green := color.green.toNat_lt
  have blue := color.blue.toNat_lt
  simp only [number]
  omega

theorem toNat_toWord (color : Rgb) : color.toWord.toNat = color.number := by
  have red := color.red.toNat_lt
  have green := color.green.toNat_lt
  have blue := color.blue.toNat_lt
  have high : (color.red.toUInt32 <<< 16).toNat = color.red.toNat <<< 16 := by
    simp only [UInt32.toNat_shiftLeft, UInt8.toNat_toUInt32, UInt32.reduceToNat,
      Nat.reduceMod, Nat.shiftLeft_eq, Nat.reducePow]
    omega
  have middle : (color.green.toUInt32 <<< 8).toNat = color.green.toNat <<< 8 := by
    simp only [UInt32.toNat_shiftLeft, UInt8.toNat_toUInt32, UInt32.reduceToNat,
      Nat.reduceMod, Nat.shiftLeft_eq, Nat.reducePow]
    omega
  -- The bits of a lower level lie below those of the next, so joining them is adding.
  have joined : color.red.toNat <<< 16 ||| color.green.toNat <<< 8 ||| color.blue.toNat =
      color.number := by
    have upper : color.red.toNat <<< 16 ||| color.green.toNat <<< 8 =
        (color.red.toNat <<< 8 + color.green.toNat) <<< 8 := by
      rw [Nat.shiftLeft_add_eq_or_of_lt green, Nat.shiftLeft_or_distrib, ← Nat.shiftLeft_add]
    rw [upper, ← Nat.shiftLeft_add_eq_or_of_lt blue]
    simp only [Nat.shiftLeft_eq, number, Nat.add_mul, Nat.mul_assoc, Nat.reducePow, Nat.reduceMul]
  rw [toWord, UInt32.toNat_or, UInt32.toNat_or, high, middle, UInt8.toNat_toUInt32, joined]

theorem unpack_eq_of_toNat {word : UInt32} {color : Rgb} (same : word.toNat = color.number) :
    unpack word = color := by
  have red := color.red.toNat_lt
  have green := color.green.toNat_lt
  have blue := color.blue.toNat_lt
  apply ext_channel
  intro which
  apply UInt8.toNat_inj.mp
  cases which <;>
    simp only [unpack, channel, UInt32.toNat_toUInt8, UInt32.toNat_shiftRight, UInt32.reduceToNat,
      Nat.reduceMod, Nat.shiftRight_eq_div_pow, Nat.reducePow, same, number] <;>
    omega

theorem ofWord_of_toNat {word : UInt32} {color : Rgb} (same : word.toNat = color.number) :
    ofWord word = .ok color := by
  have narrow : ¬ 0xFFFFFF < word := by
    have bound := color.number_lt
    rw [UInt32.lt_iff_toNat_lt, same]
    simp only [UInt32.reduceToNat]
    omega
  rw [ofWord, if_neg narrow, unpack_eq_of_toNat same]

/-- Every number below the weight of a fourth digit is that of a colour. -/
theorem exists_number_eq {value : Nat} (bound : value < 16777216) :
    ∃ color : Rgb, color.number = value := by
  refine ⟨⟨.ofNat (value / 65536), .ofNat (value / 256), .ofNat value⟩, ?_⟩
  simp only [number, UInt8.toNat_ofNat', Nat.reducePow]
  omega

theorem ofWord_number (color : Rgb) : ofWord (UInt32.ofNat color.number) = .ok color := by
  have bound := color.number_lt
  exact ofWord_of_toNat (UInt32.toNat_ofNat_of_lt' (by simp only [UInt32.size]; omega))

theorem ofWord_toWord (color : Rgb) : ofWord color.toWord = .ok color :=
  ofWord_of_toNat color.toNat_toWord

end BandedPalette.Rgb
