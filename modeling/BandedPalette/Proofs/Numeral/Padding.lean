import BandedPalette.Numeral.Writing
import BandedPalette.Proofs.Numeral.Accepting
namespace BandedPalette.Numeral

def hexAlphabet : List Char :=
  ['0', '1', '2', '3', '4', '5', '6', '7', '8', '9', 'a', 'b', 'c', 'd', 'e', 'f',
    'A', 'B', 'C', 'D', 'E', 'F']

theorem mem_hexAlphabet_iff {c : Char} : c ∈ hexAlphabet ↔ ∃ digit, IsDigit 16 digit c := by
  constructor
  · intro member
    have values : hexAlphabet.all (fun c => (hexValue? c).isSome) = true := by decide
    obtain ⟨digit, known⟩ := Option.isSome_iff_exists.mp (List.all_eq_true.mp values c member)
    exact ⟨digit, (digitValue?_eq_some_iff (by decide)).mp (digitValue?_hex known)⟩
  · intro found
    obtain ⟨digit, known⟩ := found
    have listed : ∀ digit < 16, Nat.digitChar digit ∈ hexAlphabet ∧
        (Nat.digitChar digit).toUpper ∈ hexAlphabet := by decide
    cases known with
    | lower small => exact (listed digit small).1
    | upper small => exact (listed digit small).2

theorem exists_writesNumber {text : List Char} (nonempty : text ≠ [])
    (known : ∀ c ∈ text, c ∈ hexAlphabet) : ∃ number, WritesNumber 16 number text := by
  have digits : ∃ digits, List.Forall₂ (IsDigit 16) digits text := by
    clear nonempty
    induction text with
    | nil => exact ⟨[], .nil⟩
    | cons c rest ih =>
        obtain ⟨first, others⟩ := List.forall_mem_cons.mp known
        obtain ⟨digit, known⟩ := mem_hexAlphabet_iff.mp first
        obtain ⟨digits, each⟩ := ih others
        exact ⟨digit :: digits, .cons known each⟩
  obtain ⟨digits, each⟩ := digits
  exact ⟨_, .intro nonempty each⟩

theorem WritesNumber.mem_hexAlphabet {number : Nat} {text : List Char}
    (written : WritesNumber 16 number text) : ∀ c ∈ text, c ∈ hexAlphabet := by
  obtain ⟨_, each⟩ := written
  clear * - each
  induction each with
  | nil => exact List.forall_mem_nil _
  | cons known _ ih => exact List.forall_mem_cons.mpr ⟨mem_hexAlphabet_iff.mpr ⟨_, known⟩, ih⟩

section Padding

variable {base width number digit : Nat}

theorem padded_digit (small : digit < base) :
    padded base (width + 1) digit = List.replicate width '0' ++ [digit.digitChar] := by
  simp only [padded, Nat.toDigits_of_lt_base small, List.length_singleton, Nat.add_sub_cancel]

theorem padded_snoc (more : 1 < base) (wide : 0 < width) (small : digit < base) :
    padded base (width + 1) (digit + base * number) =
      padded base width number ++ [digit.digitChar] := by
  cases number with
  | zero =>
      obtain ⟨width, rfl⟩ := Nat.exists_eq_add_one.mpr wide
      rw [Nat.mul_zero, Nat.add_zero digit, padded_digit small,
        padded_digit (Nat.zero_lt_of_lt more), List.replicate_succ']
      rfl
  | succ number =>
      have longer := Nat.toDigits_append_toDigits more (Nat.succ_pos number) small
      rw [Nat.toDigits_of_lt_base small] at longer
      rw [padded, Nat.add_comm digit, ← longer, List.length_append, List.length_singleton,
        Nat.add_sub_add_right, padded, List.append_assoc]

theorem padded_carry (more : 1 < base) (wide : 0 < width) {digits : List Nat}
    (small : ∀ digit ∈ digits, digit < base) :
    padded base (width + digits.length) (carry base number digits) =
      padded base width number ++ digits.map Nat.digitChar := by
  induction digits generalizing width number with
  | nil => simp [carry]
  | cons digit rest ih =>
      obtain ⟨first, others⟩ := List.forall_mem_cons.mp small
      have later : padded base (width + 1 + rest.length) (carry base (digit + base * number) rest) =
          padded base (width + 1) (digit + base * number) ++ rest.map Nat.digitChar :=
        ih (Nat.succ_pos width) others
      rw [padded_snoc more wide first] at later
      rw [List.length_cons, Nat.add_comm rest.length, ← Nat.add_assoc, List.map_cons,
        List.append_cons, ← later, carry, List.foldl_cons, carry]

end Padding

section Written

variable {base : Nat} {text : List Char}

theorem IsDigit.toLower_eq {digit : Nat} {c : Char} (few : base ≤ 16)
    (known : IsDigit base digit c) : c.toLower = digit.digitChar := by
  have lowered : ∀ digit < 16, (Nat.digitChar digit).toLower = Nat.digitChar digit ∧
      (Nat.digitChar digit).toUpper.toLower = Nat.digitChar digit := by decide
  have small := known.lt
  obtain ⟨lower, upper⟩ := lowered digit (by omega)
  cases known with
  | lower => exact lower
  | upper => exact upper

theorem map_toLower_eq {digits : List Nat} (few : base ≤ 16)
    (each : List.Forall₂ (IsDigit base) digits text) :
    text.map Char.toLower = digits.map Nat.digitChar := by
  induction each with
  | nil => rfl
  | cons known _ ih => rw [List.map_cons, List.map_cons, known.toLower_eq few, ih]

/-- A number that is printed to at least the length of a text it is written with
gives this text back in lower case. -/
theorem WritesNumber.padded_eq {number : Nat} (more : 1 < base) (few : base ≤ 16)
    (written : WritesNumber base number text) (extra : Nat) :
    padded base (extra + text.length) number =
      List.replicate extra '0' ++ text.map Char.toLower := by
  obtain ⟨nonempty, each⟩ := written
  rw [map_toLower_eq few each, ← each.length_eq, ← carry_zero]
  cases each with
  | nil => exact absurd rfl nonempty
  | @cons first c rest others known each =>
      have longer : padded base (extra + 1 + rest.length) (carry base first rest) =
          padded base (extra + 1) first ++ rest.map Nat.digitChar :=
        padded_carry more (Nat.succ_pos extra) (digits_lt each)
      rw [padded_digit known.lt, List.append_assoc, List.singleton_append] at longer
      rw [List.length_cons, Nat.add_comm rest.length, ← Nat.add_assoc, List.map_cons, ← longer,
        carry, List.foldl_cons, Nat.mul_zero, Nat.add_zero first, carry]

end Written

end BandedPalette.Numeral
