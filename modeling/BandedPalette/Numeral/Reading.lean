namespace BandedPalette.Numeral

/-! Reading whole numbers of a bounded range.

A numeral is an optional sign and at least one digit, nothing else: no
separators, no white space, and only the digits of ASCII.  Reading stops at the
first digit that is not one or that carries the value out of the range, so an
odd character counts only when it stands before the overflow.
-/

inductive ReadFault where
  | empty
  | invalidDigit
  | tooLarge
  | tooSmall
deriving DecidableEq, Repr

def ReadFault.message : ReadFault → String
  | .empty => "cannot parse integer from empty string"
  | .invalidDigit => "invalid digit found in string"
  | .tooLarge => "number too large to fit in target type"
  | .tooSmall => "number too small to fit in target type"

def hexValue? (c : Char) : Option Nat :=
  if c.isDigit then some (c.toNat - 48)
  else if 97 ≤ c.toNat ∧ c.toNat ≤ 102 then some (c.toNat - 87)
  else if 65 ≤ c.toNat ∧ c.toNat ≤ 70 then some (c.toNat - 55)
  else none

def digitValue? (base : Nat) (c : Char) : Option Nat :=
  (hexValue? c).filter (· < base)

def readDigits (base limit : Nat) (excess : ReadFault) : Nat → List Char → Except ReadFault Nat
  | value, [] => .ok value
  | value, c :: rest =>
      match digitValue? base c with
      | none => .error .invalidDigit
      | some digit =>
          if limit < value * base + digit then .error excess
          else readDigits base limit excess (value * base + digit) rest

def readNatural (base limit : Nat) : List Char → Except ReadFault Nat
  | [] => .error .empty
  | ['+'] => .error .invalidDigit
  | '+' :: digits => readDigits base limit .tooLarge 0 digits
  | digits => readDigits base limit .tooLarge 0 digits

/-- A decimal number from `-limit - 1` to `limit`, with an optional sign. -/
def readInteger (limit : Nat) : List Char → Except ReadFault Int
  | [] => .error .empty
  | ['+'] => .error .invalidDigit
  | ['-'] => .error .invalidDigit
  | '+' :: digits => (readDigits 10 limit .tooLarge 0 digits).map Int.ofNat
  | '-' :: digits => (readDigits 10 (limit + 1) .tooSmall 0 digits).map fun size => -(size : Int)
  | digits => (readDigits 10 limit .tooLarge 0 digits).map Int.ofNat

abbrev maxWord32 : Nat := 4294967295

abbrev maxWord64 : Nat := 18446744073709551615

abbrev maxInteger64 : Nat := 9223372036854775807

theorem readDigits_le {base limit value number : Nat} {excess : ReadFault} {text : List Char}
    (start : value ≤ limit) (read : readDigits base limit excess value text = .ok number) :
    number ≤ limit := by
  induction text generalizing value with
  | nil =>
      cases read
      exact start
  | cons c rest ih =>
      cases digit : digitValue? base c with
      | none => simp [readDigits, digit] at read
      | some d =>
          simp only [readDigits, digit] at read
          split at read
          · cases read
          · exact ih (by omega) read

end BandedPalette.Numeral
