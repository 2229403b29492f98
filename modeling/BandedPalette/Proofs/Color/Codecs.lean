import BandedPalette.Fault
import BandedPalette.Proofs.Color.Accepting
import BandedPalette.Proofs.Numeral.Padding
namespace BandedPalette.Rgb

open Numeral

/-- What is left of a text behind its mark, and how its colour is printed. -/
inductive Prints (color : Rgb) : List Char → Prop where
  | six (size : digits.length = 6) (known : ∀ c ∈ digits, c ∈ hexAlphabet)
      (printed : color.text = "#" ++ String.ofList (digits.map Char.toLower)) :
      Prints color digits
  | signed (size : digits.length = 5) (known : ∀ c ∈ digits, c ∈ hexAlphabet)
      (printed : color.text = "#0" ++ String.ofList (digits.map Char.toLower)) :
      Prints color ('+' :: digits)

structure SixDigits (number : Nat) (digits : List Char) : Prop where
  size : digits.length = 6
  written : WritesNumber 16 number digits
  lower : digits.map Char.toLower = digits

section Printing

variable {color : Rgb} {digits : List Char}

theorem map_toLower_hexPair (level : UInt8) :
    (hexPair level).map Char.toLower = hexPair level := by
  have lower {digit : Nat} (small : digit < 16) :
      (Nat.digitChar digit).toLower = Nat.digitChar digit :=
    (IsDigit.lower small).toLower_eq (Nat.le_refl 16)
  have bound := level.toNat_lt
  rw [hexPair, List.map_cons, List.map_singleton, lower (by omega), lower (by omega)]

/-- The digits of the three levels are those of the one number. -/
theorem exists_sixDigits (color : Rgb) :
    ∃ digits, SixDigits color.number digits ∧ color.text = "#" ++ String.ofList digits := by
  have written := writesNumber_of_pairs (writesPair_hexPair color.red)
    (writesPair_hexPair color.green) (writesPair_hexPair color.blue)
  refine ⟨_, ⟨rfl, written, ?lower⟩, ?text⟩
  case lower => simp only [List.map_append, map_toLower_hexPair]
  case text =>
    apply String.toList_inj.mp
    simp [text, toBytes]

theorem text_eq_hex (color : Rgb) : color.text = "#" ++ hex 6 color.number := by
  obtain ⟨digits, ⟨size, written, lower⟩, printed⟩ := color.exists_sixDigits
  have padded := written.padded_eq (by decide) (by decide) 0
  rw [Nat.zero_add, size, lower] at padded
  rw [printed, hex, padded]
  rfl

theorem text_inj {left right : Rgb} (same : left.text = right.text) : left = right := by
  have read := ofChars_of_spells left.spells_text
  rw [same, ofChars_of_spells right.spells_text] at read
  exact (Except.ok.inj read).symm

theorem text_of_writesNumber {extra : Nat} (size : extra + digits.length = 6)
    (written : WritesNumber 16 color.number digits) :
    color.text = "#" ++ String.ofList (List.replicate extra '0' ++ digits.map Char.toLower) := by
  have printed := written.padded_eq (by decide) (by decide) extra
  rw [size] at printed
  rw [text_eq_hex, hex, printed]

theorem writesNumber_iff_text {extra : Nat} (nonempty : digits ≠ [])
    (size : extra + digits.length = 6) :
    WritesNumber 16 color.number digits ↔ (∀ c ∈ digits, c ∈ hexAlphabet) ∧
      color.text = "#" ++ String.ofList (List.replicate extra '0' ++ digits.map Char.toLower) := by
  constructor
  · intro written
    exact ⟨written.mem_hexAlphabet, text_of_writesNumber size written⟩
  · intro found
    obtain ⟨known, printed⟩ := found
    obtain ⟨number, written⟩ := exists_writesNumber nonempty known
    have bound : number < 16 ^ 6 := Nat.lt_of_lt_of_le (written.lt_pow (by decide))
      (Nat.pow_le_pow_right (by decide) (by omega))
    obtain ⟨other, rfl⟩ := exists_number_eq bound
    rwa [text_inj (printed.trans (text_of_writesNumber size written).symm)]

theorem printed_behind_zero : "#" ++ String.ofList (List.replicate 1 '0' ++ digits) =
    "#0" ++ String.ofList digits := by
  apply String.toList_inj.mp
  simp

theorem prints_iff :
    Prints color digits ↔ digits.length = 6 ∧ WritesNatural 16 color.number digits := by
  constructor
  · intro prints
    cases prints with
    | six size known printed =>
        have nonempty : digits ≠ [] := List.ne_nil_of_length_eq_add_one size
        have whole : 0 + digits.length = 6 := by rw [size]
        exact ⟨size, .plain ((writesNumber_iff_text nonempty whole).mpr ⟨known, printed⟩)⟩
    | @signed digits size known printed =>
        have nonempty : digits ≠ [] := List.ne_nil_of_length_eq_add_one size
        have whole : 1 + digits.length = 6 := by rw [size]
        rw [← printed_behind_zero] at printed
        exact ⟨congrArg Nat.succ size,
          .plus ((writesNumber_iff_text nonempty whole).mpr ⟨known, printed⟩)⟩
  · intro found
    obtain ⟨size, written⟩ := found
    cases written with
    | plain written =>
        have whole : 0 + digits.length = 6 := by rw [size]
        exact .six size written.mem_hexAlphabet (text_of_writesNumber whole written)
    | @plus digits written =>
        have size : digits.length = 5 := Nat.succ.inj size
        have whole : 1 + digits.length = 6 := by rw [size]
        have printed := text_of_writesNumber whole written
        rw [printed_behind_zero] at printed
        exact .signed size written.mem_hexAlphabet printed

theorem Prints.comma_not_mem (prints : Prints color digits) : ',' ∉ digits := by
  have other {digits : List Char} (known : ∀ c ∈ digits, c ∈ hexAlphabet) : ',' ∉ digits :=
    fun member => absurd (known ',' member) (by decide)
  cases prints with
  | six _ known _ => exact other known
  | signed _ known _ => simp [other known]

theorem Unmarked.comma_not_mem {whole : List Char} (unmarked : Unmarked whole digits)
    (absent : ',' ∉ digits) : ',' ∉ whole := by
  cases unmarked with
  | plain => exact absent
  | @marked mark digits known _ =>
      have marks : ∀ mark ∈ marks, ',' ∉ mark := by decide
      simp [marks mark known, absent]

/-- The texts without a comma that are read as a colour.  Behind at most one mark
stand the six digits that the colour is printed with, in either case, or a plus
sign in place of the first of them, which is then zero. -/
theorem hex_forms_printed (source : String) (color : Rgb) :
    (',' ∉ source.toList ∧ ofText source = .ok color) ↔
      ∃ whole digits, Text.Trims source.toList whole ∧ Unmarked whole digits ∧
        Prints color digits := by
  have seen : Text.isBlank ',' = false := by decide
  constructor
  · intro accepted
    obtain ⟨plain, read⟩ := accepted
    rcases ofChars_cases source.toList with ⟨other, denoted⟩ | ⟨which, value, beyond⟩ |
      ⟨reason, misread⟩
    · cases (ofChars_of_denotes denoted).symm.trans read
      cases denoted with
      | @hexadecimal whole digits trimmed _ unmarked size written =>
          exact ⟨whole, digits, trimmed, unmarked, prints_iff.mpr ⟨size, written⟩⟩
      | decimal parts =>
          have comma := ((Text.trims_iff.mpr rfl).mem_iff seen).mpr parts.comma_mem
          exact absurd comma plain
    · cases (ofChars_of_exceeds beyond).symm.trans read
    · cases misread.symm.trans read
  · intro form
    obtain ⟨whole, digits, trimmed, unmarked, prints⟩ := form
    have plain := unmarked.comma_not_mem prints.comma_not_mem
    obtain ⟨size, written⟩ := prints_iff.mp prints
    exact ⟨mt (trimmed.mem_iff seen).mp plain,
      ofChars_of_denotes (.hexadecimal trimmed plain unmarked size written)⟩

/-- A sign is read in place of a digit, so the six characters need not all be
digits. -/
theorem signed_hex_not_digits :
    ¬ ∀ (source : String) (color : Rgb), ',' ∉ source.toList → ofText source = .ok color →
      ∃ whole digits, Text.Trims source.toList whole ∧ Unmarked whole digits ∧
        digits.length = 6 ∧ (∀ c ∈ digits, c ∈ hexAlphabet) ∧
        color.text = "#" ++ String.ofList (digits.map Char.toLower) := by
  intro strict
  have read : ofText "+12345" = .ok ⟨0x01, 0x23, 0x45⟩ := by rfl
  obtain ⟨whole, digits, trimmed, unmarked, _, known, _⟩ := strict _ _ (by decide) read
  have left : "+12345".toList = whole := trimmed.trim_eq
  have sign : '+' ∈ digits := by
    rw [← unmarked_iff.mp unmarked, ← left]
    decide
  exact absurd (known '+' sign) (by decide)

end Printing

theorem ofWord_eq_ok_iff {word : UInt32} {color : Rgb} :
    ofWord word = .ok color ↔ color.number = word.toNat := by
  constructor
  · intro unpacked
    have narrow : ¬ 0xFFFFFF < word := by
      intro wide
      rw [ofWord, if_pos wide] at unpacked
      cases unpacked
    obtain ⟨other, same⟩ : ∃ other : Rgb, other.number = word.toNat := by
      simp only [UInt32.lt_iff_toNat_lt, UInt32.reduceToNat, Nat.not_lt] at narrow
      exact exists_number_eq (Nat.lt_succ_of_le narrow)
    cases (ofWord_of_toNat same.symm).symm.trans unpacked
    exact same
  · intro same
    exact ofWord_of_toNat same.symm

theorem exists_ofWord_iff {word : UInt32} :
    (∃ color, ofWord word = .ok color) ↔ word ≤ 0xFFFFFF := by
  simp only [UInt32.le_iff_toNat_le, UInt32.reduceToNat]
  constructor
  · intro found
    obtain ⟨color, unpacked⟩ := found
    have bound := color.number_lt
    rw [ofWord_eq_ok_iff.mp unpacked] at bound
    omega
  · intro narrow
    obtain ⟨color, same⟩ := exists_number_eq (Nat.lt_succ_of_le narrow)
    exact ⟨color, ofWord_eq_ok_iff.mpr same⟩

theorem ofText_between {before after : String} (color : Rgb)
    (left : ∀ c ∈ before.toList, Text.isBlank c = true)
    (right : ∀ c ∈ after.toList, Text.isBlank c = true) :
    ofText (before ++ color.text ++ after) = .ok color := by
  have spelled := color.spells_text
  have read := ofChars_of_spells spelled
  rw [ofChars, spelled.solid.trim_eq] at read
  rw [ofText, String.toList_append, String.toList_append, ofChars,
    spelled.solid.trim_between left right, read]

section Channels

variable {red green blue : Int}

theorem exists_ofChannels_iff :
    (∃ color, ofChannels red green blue = .ok color) ↔
      ∀ value ∈ [red, green, blue], 0 ≤ value ∧ value ≤ 255 := by
  constructor
  · intro found value member
    obtain ⟨color, built⟩ := found
    by_contra outside
    obtain ⟨which, value, first⟩ := exists_firstOutside_iff.mpr ⟨value, member, outside⟩
    cases (ofChannels_of_firstOutside first).symm.trans built
  · intro inside
    rcases ofChannels_cases red green blue with ⟨color, rfl, rfl, rfl⟩ | found
    · exact ⟨color, ofChannels_toNat color⟩
    · obtain ⟨value, member, outside⟩ := exists_firstOutside_iff.mp found
      exact absurd (inside value member) outside

theorem exists_firstOutside {fault : ShapeFault}
    (refused : ofChannels red green blue = .error fault) :
    ∃ which value, FirstOutside red green blue which value ∧ fault = .channel which value := by
  rcases ofChannels_cases red green blue with ⟨color, rfl, rfl, rfl⟩ | ⟨which, value, first⟩
  · cases (ofChannels_toNat color).symm.trans refused
  · cases (ofChannels_of_firstOutside first).symm.trans refused
    exact ⟨which, value, first, rfl⟩

end Channels

/-- A colour comes back from its text, its word and its levels.  Words and
numbers that come from no colour are refused, and the other words come back
from their colours. -/
theorem codecs_inverse :
    (∀ (color : Rgb) (before after : String),
      (∀ c ∈ before.toList, Text.isBlank c = true) → (∀ c ∈ after.toList, Text.isBlank c = true) →
        ofText (before ++ color.text ++ after) = .ok color) ∧
    (∀ color : Rgb, ofWord color.toWord = .ok color ∧
      ofChannels color.red.toNat color.green.toNat color.blue.toNat = .ok color) ∧
    (∀ word : UInt32, ((∃ color, ofWord word = .ok color) ↔ word ≤ 0xFFFFFF) ∧
      ∀ color, ofWord word = .ok color → color.toWord = word ∧
        ∃ digits, SixDigits word.toNat digits ∧ color.text = "#" ++ String.ofList digits) ∧
    ∀ red green blue : Int,
      ((∃ color, ofChannels red green blue = .ok color) ↔
        ∀ value ∈ [red, green, blue], 0 ≤ value ∧ value ≤ 255) ∧
      ∀ fault, ofChannels red green blue = .error fault →
        ∃ which value, FirstOutside red green blue which value ∧
          (Fault.color (.shape fault)).detail =
            which.name ++ " channel " ++ signed value ++ " outside 0..=255" := by
  refine ⟨fun color _ _ => color.ofText_between, fun color => ?colors, fun word => ?words,
    fun red green blue => ⟨exists_ofChannels_iff, fun fault refused => ?channels⟩⟩
  case colors => exact ⟨color.ofWord_toWord, color.ofChannels_toNat⟩
  case words =>
    refine ⟨exists_ofWord_iff, fun color unpacked => ?_⟩
    have same := ofWord_eq_ok_iff.mp unpacked
    exact ⟨UInt32.toNat_inj.mp (color.toNat_toWord.trans same), same ▸ color.exists_sixDigits⟩
  case channels =>
    obtain ⟨which, value, first, rfl⟩ := exists_firstOutside refused
    exact ⟨which, value, first, rfl⟩

end BandedPalette.Rgb
