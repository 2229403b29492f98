import BandedPalette.Proofs.Numeral.Digits
import BandedPalette.Proofs.Result
import Mathlib.Data.List.Forall2
import Mathlib.Data.Nat.Digits.Defs
namespace BandedPalette.Numeral

inductive IsDigit (base digit : Nat) : Char → Prop where
  | lower (small : digit < base) : IsDigit base digit (Nat.digitChar digit)
  | upper (small : digit < base) : IsDigit base digit (Nat.digitChar digit).toUpper

inductive WritesNumber (base : Nat) : Nat → List Char → Prop where
  | intro (nonempty : text ≠ []) (each : List.Forall₂ (IsDigit base) digits text) :
      WritesNumber base (Nat.ofDigits base digits.reverse) text

inductive WritesNatural (base number : Nat) : List Char → Prop where
  | plain (digits : WritesNumber base number text) : WritesNatural base number text
  | plus (digits : WritesNumber base number text) : WritesNatural base number ('+' :: text)

/-- A decimal number with an optional sign.  Zero may have either. -/
inductive WritesInteger : Int → List Char → Prop where
  | plain (digits : WritesNumber 10 number text) : WritesInteger number text
  | plus (digits : WritesNumber 10 number text) : WritesInteger number ('+' :: text)
  | minus (digits : WritesNumber 10 number text) : WritesInteger (-number) ('-' :: text)

theorem IsDigit.lt {base digit : Nat} {c : Char} (known : IsDigit base digit c) : digit < base := by
  cases known with
  | lower small => exact small
  | upper small => exact small

theorem digitValue?_eq_some_iff {base digit : Nat} {c : Char} (few : base ≤ 16) :
    digitValue? base c = some digit ↔ IsDigit base digit c := by
  constructor
  · intro known
    obtain ⟨hex, small⟩ := Option.filter_eq_some_iff.mp known
    have small : digit < base := of_decide_eq_true small
    have places : ∀ digit < 16,
        (Nat.digitChar digit).toNat = (if digit < 10 then digit + 48 else digit + 87) ∧
          (10 ≤ digit → (Nat.digitChar digit).toUpper.toNat = digit + 55) := by decide
    obtain ⟨lower, upper⟩ := places digit (by omega)
    rcases hexValue?_eq_some hex with ⟨_, _, value⟩ | ⟨_, _, value⟩ | ⟨_, _, value⟩
    · rw [if_pos (by omega)] at lower
      have same : Nat.digitChar digit = c := Char.toNat_inj.mp (by omega)
      exact same ▸ .lower small
    · rw [if_neg (by omega)] at lower
      have same : Nat.digitChar digit = c := Char.toNat_inj.mp (by omega)
      exact same ▸ .lower small
    · have upper := upper (by omega)
      have same : (Nat.digitChar digit).toUpper = c := Char.toNat_inj.mp (by omega)
      exact same ▸ .upper small
  · intro known
    have values : ∀ digit < 16, hexValue? (Nat.digitChar digit) = some digit ∧
        hexValue? (Nat.digitChar digit).toUpper = some digit := by decide
    have small := known.lt
    obtain ⟨lower, upper⟩ := values digit (by omega)
    cases known with
    | lower => simp [digitValue?, lower, small]
    | upper => simp [digitValue?, upper, small]

theorem IsDigit.visible {base digit : Nat} {c : Char} (few : base ≤ 16)
    (known : IsDigit base digit c) : 47 < c.toNat ∧ c.toNat < 127 := by
  obtain ⟨hex, _⟩ := Option.filter_eq_some_iff.mp ((digitValue?_eq_some_iff few).mpr known)
  have place := hexValue?_eq_some hex
  omega

theorem digits_lt {base : Nat} {digits : List Nat} {text : List Char}
    (each : List.Forall₂ (IsDigit base) digits text) : ∀ digit ∈ digits, digit < base := by
  induction each with
  | nil => exact List.forall_mem_nil _
  | cons known _ ih => exact List.forall_mem_cons.mpr ⟨known.lt, ih⟩

/-- The number that digits lengthen a number to. -/
def carry (base : Nat) (value : Nat) (digits : List Nat) : Nat :=
  digits.foldl (fun value digit => digit + base * value) value

theorem carry_zero (base : Nat) (digits : List Nat) :
    carry base 0 digits = Nat.ofDigits base digits.reverse := by
  rw [Nat.ofDigits_eq_foldr, List.foldr_reverse]
  rfl

theorem le_carry {base : Nat} (positive : 0 < base) (value : Nat) (digits : List Nat) :
    value ≤ carry base value digits := by
  induction digits generalizing value with
  | nil => exact Nat.le_refl value
  | cons digit rest ih =>
      have grown : value ≤ digit + base * value :=
        Nat.le_trans (Nat.le_mul_of_pos_left value positive) (Nat.le_add_left _ digit)
      exact Nat.le_trans grown (ih _)

theorem writesNumber_of_isDigit {text : List Char} (nonempty : text ≠ [])
    (all : ∀ c ∈ text, c.isDigit = true) :
    WritesNumber 10 (Nat.ofDigitChars 10 text 0) text := by
  let digits := text.map fun c => c.toNat - '0'.toNat
  have each : List.Forall₂ (IsDigit 10) digits text := by
    rw [List.forall₂_map_left_iff, List.forall₂_same]
    intro c member
    exact (digitValue?_eq_some_iff (by decide)).mp (digitValue?_decimal (all c member))
  have value : Nat.ofDigits 10 digits.reverse = Nat.ofDigitChars 10 text 0 := by
    rw [← carry_zero, carry, List.foldl_map, Nat.ofDigitChars]
    simp only [Nat.add_comm]
  exact value ▸ .intro nonempty each

section Reading

variable {base limit value number : Nat} {excess : ReadFault} {text : List Char}

theorem exists_digits_of_readDigits (few : base ≤ 16)
    (read : readDigits base limit excess value text = .ok number) :
    ∃ digits, List.Forall₂ (IsDigit base) digits text ∧ carry base value digits = number := by
  induction text generalizing value with
  | nil =>
      cases read
      exact ⟨[], .nil, rfl⟩
  | cons c rest ih =>
      cases known : digitValue? base c with
      | none =>
          simp only [readDigits, known] at read
          cases read
      | some digit =>
          simp only [readDigits, known] at read
          split at read
          · cases read
          · obtain ⟨digits, each, total⟩ := ih read
            refine ⟨digit :: digits, .cons ((digitValue?_eq_some_iff few).mp known) each, ?_⟩
            rw [← total, carry, List.foldl_cons, Nat.add_comm digit, Nat.mul_comm base]
            rfl

theorem readDigits_of_digits {digits : List Nat} (positive : 0 < base) (few : base ≤ 16)
    (each : List.Forall₂ (IsDigit base) digits text) (fits : carry base value digits ≤ limit) :
    readDigits base limit excess value text = .ok (carry base value digits) := by
  induction each generalizing value with
  | nil => rfl
  | @cons digit c digits rest known _ ih =>
      rw [carry, List.foldl_cons, Nat.add_comm digit, Nat.mul_comm base] at fits ⊢
      have within := Nat.le_trans (le_carry positive _ digits) fits
      rw [readDigits_cons ((digitValue?_eq_some_iff few).mpr known) within]
      exact ih fits

theorem readDigits_eq_ok_iff (positive : 0 < base) (few : base ≤ 16) (nonempty : text ≠ []) :
    readDigits base limit excess 0 text = .ok number ↔
      WritesNumber base number text ∧ number ≤ limit := by
  constructor
  · intro read
    obtain ⟨digits, each, total⟩ := exists_digits_of_readDigits few read
    rw [carry_zero] at total
    exact ⟨total ▸ .intro nonempty each, readDigits_le (Nat.zero_le limit) read⟩
  · rintro ⟨⟨_, each⟩, fits⟩
    rw [← carry_zero] at fits ⊢
    exact readDigits_of_digits positive few each fits

theorem WritesNumber.exists_cons (few : base ≤ 16) (written : WritesNumber base number text) :
    ∃ c rest, text = c :: rest ∧ c ≠ '+' ∧ c ≠ '-' := by
  obtain ⟨nonempty, each⟩ := written
  cases each with
  | nil => exact absurd rfl nonempty
  | @cons _ c _ rest first _ =>
      have visible := (first.visible few).1
      refine ⟨c, rest, rfl, ?_, ?_⟩
      · rintro rfl
        exact absurd visible (by decide)
      · rintro rfl
        exact absurd visible (by decide)

theorem WritesNumber.lt_pow (more : 1 < base) (written : WritesNumber base number text) :
    number < base ^ text.length := by
  cases written with
  | @intro _ digits _ each =>
      rw [← each.length_eq, ← List.length_reverse]
      exact Nat.ofDigits_lt_base_pow_length more fun digit member =>
        digits_lt each digit (List.mem_reverse.mp member)

theorem readNatural_eq_ok_iff (positive : 0 < base) (few : base ≤ 16) :
    readNatural base limit text = .ok number ↔
      WritesNatural base number text ∧ number ≤ limit := by
  constructor
  · intro read
    unfold readNatural at read
    split at read
    case h_1 => cases read
    case h_2 => cases read
    case h_3 digits alone =>
      have nonempty : digits ≠ [] := by
        rintro rfl
        exact alone rfl
      obtain ⟨written, fits⟩ := (readDigits_eq_ok_iff positive few nonempty).mp read
      exact ⟨.plus written, fits⟩
    case h_4 nonempty _ _ =>
      obtain ⟨written, fits⟩ := (readDigits_eq_ok_iff positive few nonempty).mp read
      exact ⟨.plain written, fits⟩
  · rintro ⟨written, fits⟩
    cases written with
    | plain written =>
        obtain ⟨c, rest, rfl, plus, _⟩ := written.exists_cons few
        simpa [readNatural, plus] using
          (readDigits_eq_ok_iff positive few (List.cons_ne_nil c rest)).mpr ⟨written, fits⟩
    | plus written =>
        obtain ⟨c, rest, rfl, _⟩ := written.exists_cons few
        exact (readDigits_eq_ok_iff positive few (List.cons_ne_nil c rest)).mpr ⟨written, fits⟩

theorem readDecimal_eq_ok_iff (nonempty : text ≠ []) :
    readDigits 10 limit excess 0 text = .ok number ↔ WritesNumber 10 number text ∧ number ≤ limit :=
  readDigits_eq_ok_iff (by decide) (by decide) nonempty

theorem readInteger_eq_ok_iff {value : Int} :
    readInteger limit text = .ok value ↔
      WritesInteger value text ∧ -(limit : Int) - 1 ≤ value ∧ value ≤ limit := by
  constructor
  · intro read
    unfold readInteger at read
    split at read
    case h_1 => cases read
    case h_2 => cases read
    case h_3 => cases read
    case h_4 digits alone =>
      obtain ⟨number, taken, rfl⟩ := exists_of_map read
      obtain ⟨written, fits⟩ := (readDecimal_eq_ok_iff fun empty => alone (empty ▸ rfl)).mp taken
      exact ⟨.plus written, by simp; omega, by simp; omega⟩
    case h_5 digits alone =>
      obtain ⟨size, sized, rfl⟩ := exists_of_map read
      obtain ⟨number, taken, same⟩ := exists_of_bind sized
      cases same
      obtain ⟨written, fits⟩ := (readDecimal_eq_ok_iff fun empty => alone (empty ▸ rfl)).mp taken
      exact ⟨.minus written, by omega, by omega⟩
    case h_6 nonempty _ _ _ _ =>
      obtain ⟨number, taken, rfl⟩ := exists_of_map read
      obtain ⟨written, fits⟩ := (readDecimal_eq_ok_iff nonempty).mp taken
      exact ⟨.plain written, by simp; omega, by simp; omega⟩
  · rintro ⟨written, least, greatest⟩
    cases written with
    | @plain number _ written =>
        obtain ⟨c, rest, rfl, plus, minus⟩ := written.exists_cons (by decide)
        have read : readDigits 10 limit .tooLarge 0 (c :: rest) = .ok number :=
          (readDecimal_eq_ok_iff (List.cons_ne_nil c rest)).mpr ⟨written, by omega⟩
        simp [readInteger, plus, minus, read, Except.map]
    | @plus number _ written =>
        obtain ⟨c, rest, rfl, _⟩ := written.exists_cons (by decide)
        have read : readDigits 10 limit .tooLarge 0 (c :: rest) = .ok number :=
          (readDecimal_eq_ok_iff (List.cons_ne_nil c rest)).mpr ⟨written, by omega⟩
        simp [readInteger, read, Except.map]
    | @minus number _ written =>
        obtain ⟨c, rest, rfl, _⟩ := written.exists_cons (by decide)
        have read : readDigits 10 (limit + 1) .tooSmall 0 (c :: rest) = .ok number :=
          (readDecimal_eq_ok_iff (List.cons_ne_nil c rest)).mpr ⟨written, by omega⟩
        simp [readInteger, read, Except.map]

end Reading

end BandedPalette.Numeral
