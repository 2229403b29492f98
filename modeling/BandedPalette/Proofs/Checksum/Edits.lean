import BandedPalette.Formula.Fingerprint
import BandedPalette.Reference
import BandedPalette.Proofs.Checksum.Period
namespace BandedPalette

/-! Edits of a palette seen in its check.

The three bytes of a colour are taken in as one word, so an edit of a colour adds
the difference of two words to the register.  Later colours only shift it, and no
shift loses it.  Two colours that are exchanged add the same difference twice, and
it is missed only if the shifts between them bring it back.
-/

namespace Checksum

def lift : Channel → Nat
  | .red => 0
  | .green => 8
  | .blue => 16

def byteWord (byte : UInt8) : BitVec 32 :=
  byte.toBitVec.setWidth 32

def colorWord (color : Rgb) : BitVec 32 :=
  byteWord color.red <<< lift .red ^^^ byteWord color.green <<< lift .green ^^^
    byteWord color.blue <<< lift .blue

theorem getLsbD_byteWord_of_ge (byte : UInt8) {place : Nat} (above : 8 ≤ place) :
    (byteWord byte).getLsbD place = false := by
  rw [byteWord, BitVec.getLsbD_setWidth, BitVec.getLsbD_of_ge byte.toBitVec place above,
    Bool.and_false]

theorem getLsbD_lifted (byte : UInt8) (channel which : Channel) {place : Nat} (bound : place < 8) :
    (byteWord byte <<< lift channel).getLsbD (lift which + place) =
      (decide (which = channel) && byte.toBitVec.getLsbD place) := by
  have inside : lift which + place < 32 := by cases which <;> simp only [lift] <;> omega
  rw [BitVec.getLsbD_shiftLeft]
  by_cases same : which = channel
  · subst same
    have narrow : place < 32 := by omega
    rw [Nat.add_sub_cancel_left, byteWord, BitVec.getLsbD_setWidth]
    simp [inside, narrow]
  · have apart : lift which + 8 ≤ lift channel ∨ lift channel + 8 ≤ lift which := by
      revert same
      cases which <;> cases channel <;> decide
    rcases apart with below | above
    · have under : lift which + place < lift channel := by omega
      simp [under, same]
    · rw [getLsbD_byteWord_of_ge byte (by omega)]
      simp [same]

theorem getLsbD_colorWord (color : Rgb) (which : Channel) {place : Nat} (bound : place < 8) :
    (colorWord color).getLsbD (lift which + place) =
      (color.channel which).toBitVec.getLsbD place := by
  rw [colorWord, BitVec.getLsbD_xor, BitVec.getLsbD_xor, getLsbD_lifted _ _ _ bound,
    getLsbD_lifted _ _ _ bound, getLsbD_lifted _ _ _ bound]
  cases which <;> simp [Rgb.channel]

theorem colorWord_inj {left right : Rgb} : colorWord left = colorWord right ↔ left = right := by
  refine ⟨fun same => Rgb.ext_channel fun which => ?_, fun same => same ▸ rfl⟩
  apply UInt8.toBitVec_inj.mp
  apply BitVec.eq_of_getLsbD_eq
  intro place bound
  rw [← getLsbD_colorWord left which bound, ← getLsbD_colorWord right which bound, same]

theorem shifts_byteWord (byte : UInt8) {count : Nat} (bound : count ≤ 24) :
    shifts count (byteWord byte <<< count) = byteWord byte :=
  shifts_shiftLeft fun place high => getLsbD_byteWord_of_ge byte (by omega)

theorem xor_shifts_eq_self_iff {count : Nat} {register difference : BitVec 32} :
    register ^^^ shifts count difference = register ↔ difference = 0#32 := by
  rw [← BitVec.xor_eq_zero_iff, BitVec.xor_comm register, BitVec.xor_assoc, BitVec.xor_self,
    BitVec.xor_zero]
  exact shifts_eq_zero_iff

def feed (register : BitVec 32) (color : Rgb) : BitVec 32 :=
  shifts 24 (register ^^^ colorWord color)

theorem foldl_absorb_toBytes (register : BitVec 32) (color : Rgb) :
    color.toBytes.foldl absorb register = feed register color := by
  calc color.toBytes.foldl absorb register =
      shifts 8 (shifts 8 (shifts 8 (register ^^^ byteWord color.red) ^^^ byteWord color.green) ^^^
        byteWord color.blue) := rfl
    _ = shifts 8 (shifts 8 (shifts 8 (register ^^^ byteWord color.red) ^^^
          shifts 8 (byteWord color.green <<< 8)) ^^^ shifts 16 (byteWord color.blue <<< 16)) := by
        rw [shifts_byteWord _ (by decide), shifts_byteWord _ (by decide)]
    _ = shifts 24 (register ^^^ byteWord color.red ^^^ byteWord color.green <<< 8 ^^^
          byteWord color.blue <<< 16) := by
        rw [← shifts_xor, ← shifts_add 8 8, ← shifts_xor, ← shifts_add 8 16]
    _ = feed register color := by
        rw [feed, colorWord, lift, lift, lift, BitVec.shiftLeft_zero, BitVec.xor_assoc,
          BitVec.xor_assoc, BitVec.xor_assoc]

theorem feed_xor (register difference : BitVec 32) (color : Rgb) :
    feed (register ^^^ difference) color = feed register color ^^^ shifts 24 difference := by
  rw [feed, feed, ← shifts_xor]
  congr 1
  ac_rfl

/-- The same colours shift a difference and leave it otherwise alone. -/
theorem foldl_feed_xor (colors : List Rgb) (register difference : BitVec 32) :
    colors.foldl feed (register ^^^ difference) =
      colors.foldl feed register ^^^ shifts (24 * colors.length) difference := by
  induction colors generalizing register difference with
  | nil => rfl
  | cons color rest ih =>
      rw [List.foldl_cons, List.foldl_cons, feed_xor, ih, ← shifts_add, List.length_cons]
      rfl

theorem foldl_feed_set {colors : List Rgb} {position : Nat} (inside : position < colors.length)
    (color : Rgb) (register : BitVec 32) :
    (colors.set position color).foldl feed register =
      colors.foldl feed register ^^^
        shifts (24 * (colors.length - position))
          (colorWord colors[position] ^^^ colorWord color) := by
  induction colors generalizing position register with
  | nil => cases inside
  | cons first rest ih =>
      cases position with
      | zero =>
          have changed : feed register color =
              feed register first ^^^ shifts 24 (colorWord first ^^^ colorWord color) := by
            rw [feed, feed, ← shifts_xor, BitVec.xor_assoc, ← BitVec.xor_assoc (colorWord first),
              BitVec.xor_self, BitVec.zero_xor]
          rw [List.set_cons_zero, List.foldl_cons, changed, foldl_feed_xor, ← shifts_add]
          rfl
      | succ position =>
          rw [List.set_cons_succ, List.foldl_cons, List.foldl_cons,
            ih (Nat.lt_of_succ_lt_succ inside), List.length_cons, Nat.succ_sub_succ]
          rfl

end Checksum

open Checksum

theorem paletteChecksum_eq (colors : List Rgb) :
    paletteChecksum colors = ~~~ colors.foldl feed (~~~ 0#32) := by
  have each : (fun register color => (Rgb.toBytes color).foldl absorb register) = feed := by
    funext register color
    exact foldl_absorb_toBytes register color
  rw [paletteChecksum, ofBytes, List.foldl_flatMap, each]

section Edits

variable {colors : List Rgb} {first second : Nat}

theorem paletteChecksum_set (inside : first < colors.length) (color : Rgb) :
    paletteChecksum (colors.set first color) =
      paletteChecksum colors ^^^
        shifts (24 * (colors.length - first)) (colorWord colors[first] ^^^ colorWord color) := by
  rw [paletteChecksum_eq, paletteChecksum_eq, foldl_feed_set inside, BitVec.not_xor_left]

theorem paletteChecksum_exchange (before : first < second) (inside : second < colors.length) :
    paletteChecksum ((colors.set first colors[second]).set second colors[first]) =
      paletteChecksum colors ^^^ shifts (24 * (colors.length - second))
        (shifts (24 * (second - first)) (colorWord colors[first] ^^^ colorWord colors[second]) ^^^
          (colorWord colors[first] ^^^ colorWord colors[second])) := by
  have within : second < (colors.set first colors[second]).length := by
    rwa [List.length_set]
  have kept : (colors.set first colors[second])[second] = colors[second] :=
    List.getElem_set_ne (Nat.ne_of_lt before) within
  -- The difference is added at both places, shifted by what lies behind each.
  have behind : 24 * (colors.length - first) =
      24 * (colors.length - second) + 24 * (second - first) := by omega
  rw [paletteChecksum_set within, paletteChecksum_set, kept, List.length_set, behind, shifts_add,
    BitVec.xor_assoc, ← shifts_xor, BitVec.xor_comm (colorWord colors[second])]

theorem paletteChecksum_exchange_eq_iff (before : first < second)
    (inside : second < colors.length) :
    paletteChecksum ((colors.set first colors[second]).set second colors[first]) =
        paletteChecksum colors ↔
      colors[first] = colors[second] ∨ period ∣ 24 * (second - first) := by
  rw [paletteChecksum_exchange before inside, xor_shifts_eq_self_iff, BitVec.xor_eq_zero_iff,
    shifts_eq_self_iff, BitVec.xor_eq_zero_iff, colorWord_inj]

end Edits

/-- The check stays the same exactly if the colour does. -/
theorem changed_entry_detected (colors : List Rgb) (position : Fin colors.length) (color : Rgb) :
    paletteChecksum (colors.set position color) = paletteChecksum colors ↔
      color = colors[position] := by
  rw [paletteChecksum_set position.isLt, xor_shifts_eq_self_iff, BitVec.xor_eq_zero_iff,
    colorWord_inj, eq_comm]
  rfl

/-- In a list that is no longer than a palette, no two colours are so far apart that
their difference comes back, so their exchange is noticed unless they are the same. -/
theorem exchanged_entries_detected {colors : List Rgb} (few : colors.length ≤ 133)
    {first second : Nat} (before : first < second) (inside : second < colors.length) :
    paletteChecksum ((colors.set first colors[second]).set second colors[first]) =
        paletteChecksum colors ↔
      colors[first] = colors[second] := by
  have early : ¬ period ∣ 24 * (second - first) :=
    Nat.not_dvd_of_pos_of_lt (by omega) (by simp only [period]; omega)
  rw [paletteChecksum_exchange_eq_iff before inside]
  exact or_iff_left early

theorem exchanged_entries_detected_table :
    Reference.table.length ≤ 133 ∧ 0 < 132 ∧ 132 < Reference.table.length ∧
      Reference.table[0]? = some (.unpack 0xFFFFFF) ∧
      Reference.table[132]? = some (.unpack 0x7F0000) ∧
      paletteChecksum ((Reference.table.set 0 (.unpack 0x7F0000)).set 132 (.unpack 0xFFFFFF)) ≠
        paletteChecksum Reference.table := by
  have few : Reference.table.length ≤ 133 := Nat.le_of_eq Reference.length_table
  have inside : 132 < Reference.table.length := by
    rw [Reference.length_table]
    decide
  have first : Reference.table[0]? = some (.unpack 0xFFFFFF) := by decide +kernel
  have last : Reference.table[132]? = some (.unpack 0x7F0000) := by decide +kernel
  obtain ⟨_, white⟩ := List.getElem?_eq_some_iff.mp first
  obtain ⟨_, maroon⟩ := List.getElem?_eq_some_iff.mp last
  have detected := exchanged_entries_detected few (by decide : 0 < 132) inside
  rw [white, maroon] at detected
  exact ⟨few, by decide, inside, first, last, fun same => absurd (detected.mp same) (by decide)⟩

end BandedPalette
