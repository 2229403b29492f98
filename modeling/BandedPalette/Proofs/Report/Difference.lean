import BandedPalette.Report.Entry
namespace BandedPalette

namespace Difference

theorem toInt_ofByte (byte : UInt8) : byte.toUInt16.toInt16.toInt = byte.toNat := by
  have bound := byte.toNat_lt
  have small : byte.toUInt16 = UInt16.ofNat byte.toNat := by simp
  rw [small, UInt16.toInt16_ofNat', Int16.toInt_ofNat_of_lt (by omega)]

/-- The error of a channel is the difference of the levels over the integers. -/
theorem toInt_channel_ofColors (computed reference : Rgb) (which : Channel) :
    ((ofColors computed reference).channel which).toInt =
      (computed.channel which).toNat - (reference.channel which).toNat := by
  have high := (computed.channel which).toNat_lt
  have low := (reference.channel which).toNat_lt
  have same : (ofColors computed reference).channel which =
      (computed.channel which).toUInt16.toInt16 - (reference.channel which).toUInt16.toInt16 := by
    cases which <;> rfl
  rw [same, Int16.toInt_sub, toInt_ofByte, toInt_ofByte]
  exact Int.bmod_eq_of_le (by omega) (by omega)

theorem channel_ofColors_eq_zero_iff {computed reference : Rgb} {which : Channel} :
    (ofColors computed reference).channel which = 0 ↔
      computed.channel which = reference.channel which := by
  rw [← Int16.toInt_inj, toInt_channel_ofColors, Int16.toInt_zero, ← UInt8.toNat_inj]
  omega

theorem eq_zero_iff {difference : Difference} :
    difference = zero ↔ ∀ which, difference.channel which = 0 := by
  constructor
  · rintro rfl which
    cases which <;> rfl
  · intro zeros
    have red := zeros .red
    have green := zeros .green
    have blue := zeros .blue
    cases difference
    simp_all [channel, zero]

theorem toList_eq_map (difference : Difference) :
    difference.toList = Channel.all.map difference.channel :=
  rfl

theorem ofColors_eq_zero_iff {computed reference : Rgb} :
    ofColors computed reference = zero ↔ computed = reference := by
  rw [eq_zero_iff]
  constructor
  · intro zeros
    exact Rgb.ext_channel fun which => channel_ofColors_eq_zero_iff.mp (zeros which)
  · rintro rfl which
    exact channel_ofColors_eq_zero_iff.mpr rfl

end Difference

theorem Channel.mem_all (which : Channel) : which ∈ all := by
  cases which <;> decide

namespace Entry

structure Compares (place : Index) (color wanted : Rgb) (entry : Entry) : Prop where
  index : entry.index = place
  computed : entry.computed = color
  reference : entry.reference = wanted
  error : ∀ which, (entry.error.channel which).toInt =
    (color.channel which).toNat - (wanted.channel which).toNat

theorem compares_compare (place : Index) (color wanted : Rgb) :
    (compare place color wanted).Compares place color wanted where
  index := rfl
  computed := rfl
  reference := rfl
  error := Difference.toInt_channel_ofColors color wanted

theorem isExact_iff {entry : Entry} :
    entry.isExact ↔ ∀ error ∈ entry.error.toList, error = 0 := by
  simp only [isExact, decide_eq_true_eq, Difference.eq_zero_iff, Difference.toList_eq_map,
    List.forall_mem_map]
  exact ⟨fun zeros which _ => zeros which, fun zeros which => zeros which which.mem_all⟩

theorem isExact_compare_iff {index : Index} {computed reference : Rgb} :
    (compare index computed reference).isExact ↔ computed = reference := by
  simp only [isExact, compare, decide_eq_true_eq, Difference.ofColors_eq_zero_iff]

end Entry

end BandedPalette
