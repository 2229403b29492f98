import BandedPalette.Numeral.Reading
namespace BandedPalette.Numeral

theorem le_ofDigitChars (text : List Char) (value : Nat) :
    value ≤ Nat.ofDigitChars 10 text value := by
  rw [Nat.ofDigitChars_eq_ofDigitChars_zero]
  exact Nat.le_trans (Nat.le_mul_of_pos_left value (Nat.pow_pos (by omega)))
    (Nat.le_add_right _ _)

theorem isDigit_of_mem_toDigits (number : Nat) :
    ∀ c ∈ Nat.toDigits 10 number, c.isDigit = true :=
  fun _ member => Nat.isDigit_of_mem_toDigits (by decide) (by decide) member

theorem eq_zero_of_head {number : Nat} (head : (Nat.toDigits 10 number).head? = some '0') :
    number = 0 := by
  induction number using Nat.strongRecOn with
  | ind number ih =>
      rw [Nat.toDigits_eq_if (by decide)] at head
      split at head
      · rename_i small
        have digit : number.digitChar.toNat = '0'.toNat := by
          rw [Option.some.inj head]
        rw [Nat.toNat_digitChar_of_lt_ten small] at digit
        exact Nat.add_left_cancel digit
      · rename_i large
        obtain ⟨c, others, front⟩ := List.exists_cons_of_ne_nil
          (Nat.toDigits_ne_nil (n := number / 10) (b := 10))
        have less := ih (number / 10) (by omega) (by simpa [front] using head)
        omega

theorem digit_lt_ten {c : Char} (digit : c.isDigit = true) : c.toNat - '0'.toNat < 10 := by
  obtain ⟨_, greatest⟩ := Char.isDigit_iff_toNat.mp digit
  change c.toNat ≤ 57 at greatest
  change c.toNat - 48 < 10
  omega

theorem toDigits_digit {c : Char} (digit : c.isDigit = true) :
    Nat.toDigits 10 (c.toNat - '0'.toNat) = [c] := by
  have small := digit_lt_ten digit
  obtain ⟨least, _⟩ := Char.isDigit_iff_toNat.mp digit
  have same : (Nat.digitChar (c.toNat - '0'.toNat)).toNat = c.toNat := by
    rw [Nat.toNat_digitChar_of_lt_ten small]
    exact Nat.add_sub_cancel' least
  rw [Nat.toDigits_of_lt_base small, Char.toNat_inj.mp same]

/-- Digits after a number that is not zero lengthen its digits. -/
theorem toDigits_ofDigitChars {text : List Char} (all : ∀ c ∈ text, c.isDigit = true)
    {number : Nat} (positive : 0 < number) :
    Nat.toDigits 10 (Nat.ofDigitChars 10 text number) = Nat.toDigits 10 number ++ text := by
  induction text generalizing number with
  | nil => simp
  | cons c rest ih =>
      have digit := all c (by simp)
      have longer := Nat.toDigits_append_toDigits (by decide) positive (digit_lt_ten digit)
      rw [Nat.ofDigitChars_cons, ih (fun other member => all other (by simp [member])) (by omega),
        ← longer, toDigits_digit digit, List.append_assoc]
      rfl

theorem hexValue?_eq_some {c : Char} {digit : Nat} (known : hexValue? c = some digit) :
    (48 ≤ c.toNat ∧ c.toNat ≤ 57 ∧ digit = c.toNat - 48) ∨
      (97 ≤ c.toNat ∧ c.toNat ≤ 102 ∧ digit = c.toNat - 87) ∨
      (65 ≤ c.toNat ∧ c.toNat ≤ 70 ∧ digit = c.toNat - 55) := by
  unfold hexValue? at known
  split at known
  case isTrue decimal =>
    obtain ⟨least, greatest⟩ := Char.isDigit_iff_toNat.mp decimal
    exact .inl ⟨least, greatest, (Option.some.inj known).symm⟩
  case isFalse =>
    split at known
    case isTrue lower => exact .inr (.inl ⟨lower.1, lower.2, (Option.some.inj known).symm⟩)
    case isFalse =>
      split at known
      case isTrue upper => exact .inr (.inr ⟨upper.1, upper.2, (Option.some.inj known).symm⟩)
      case isFalse => cases known

theorem hexValue?_lt {c : Char} {digit : Nat} (known : hexValue? c = some digit) : digit < 16 := by
  have place := hexValue?_eq_some known
  omega

theorem digitValue?_hex {c : Char} {digit : Nat} (known : hexValue? c = some digit) :
    digitValue? 16 c = some digit := by
  simp [digitValue?, known, hexValue?_lt known]

theorem digitValue?_decimal {c : Char} (digit : c.isDigit = true) :
    digitValue? 10 c = some (c.toNat - '0'.toNat) := by
  have known : hexValue? c = some (c.toNat - '0'.toNat) := by
    rw [hexValue?, if_pos digit]
    rfl
  simp only [digitValue?, known, Option.filter_some, digit_lt_ten digit, decide_true, if_true]

theorem readDigits_cons {base digit limit value : Nat} {excess : ReadFault} {c : Char}
    {rest : List Char} (known : digitValue? base c = some digit)
    (within : value * base + digit ≤ limit) :
    readDigits base limit excess value (c :: rest) =
      readDigits base limit excess (value * base + digit) rest := by
  rw [readDigits, known]
  exact if_neg (Nat.not_lt.mpr within)

end BandedPalette.Numeral
