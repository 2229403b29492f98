import BandedPalette.Json.Fault
import BandedPalette.Numeral.Reading
namespace BandedPalette.Json

/-! Reading numbers.

A number without a fraction or an exponent is whole as long as it fits in
sixty-four bits.  Any other is a floating-point number: its digits are taken
into a sixty-four-bit significand until the next one would overflow, the others
only count as powers of ten, and the significand is then scaled by one
multiplication or division.
-/

inductive Number where
  | natural (value : Nat)
  | negative (size : Nat)
  | real (value : Float)

def Number.found : Number → Found
  | .natural value => .integer value
  | .negative size => .integer (-(size : Int))
  | .real value => .real ((Numeral.Binary.ofFloat? value).getD ⟨false, 0, 0⟩)

def digits (text : List Char) : List Char :=
  text.takeWhile Char.isDigit

def afterDigits (text : List Char) : List Char :=
  text.dropWhile Char.isDigit

/-- Takes digits into a value for as long as it stays within a limit, and
returns the digits that were left out. -/
def absorb (limit : Nat) : Nat → List Char → Nat × List Char
  | value, [] => (value, [])
  | value, c :: rest =>
      let next := value * 10 + (c.toNat - 48)
      if limit < next then (value, c :: rest) else absorb limit next rest

def greatestPower : Nat := 308

def tenTo (power : Nat) : Float :=
  Float.ofScientific 1 false power

def scale (x : Float) (power : Int) : Option Float :=
  if power.natAbs ≤ greatestPower then
    if 0 ≤ power then
      let scaled := x * tenTo power.natAbs
      if scaled.isInf then none else some scaled
    else some (x / tenTo power.natAbs)
  else if x == 0.0 then some x
  else if 0 ≤ power then none
  else scale (x / tenTo greatestPower) (power + greatestPower)
termination_by power.natAbs
decreasing_by
  simp only [greatestPower] at *
  omega

def withSign (negative : Bool) (x : Float) : Float :=
  if negative then -x else x

def finishReal (negative : Bool) (significand : Nat) (power : Int) (rest : List Char) :
    Reading Number :=
  match scale (UInt64.ofNat significand).toFloat power with
  | none => .error (.before .numberTooLarge rest)
  | some size => .ok (.real (withSign negative size), rest)

/-- The largest exponent that is taken in; a longer one makes the number zero
or too large. -/
def greatestExponent : Nat := 2147483647

def readExponent (negative : Bool) (significand : Nat) (power : Int) (text : List Char) :
    Reading Number :=
  let (down, text) : Bool × List Char :=
    match text with
    | '+' :: rest => (false, rest)
    | '-' :: rest => (true, rest)
    | rest => (false, rest)
  match text with
  | [] => .error ⟨.endInValue, 0⟩
  | c :: _ =>
      if c.isDigit then
        let (size, excess) := absorb greatestExponent 0 (digits text)
        let rest := afterDigits text
        match excess with
        | [] => finishReal negative significand (if down then power - size else power + size) rest
        | _ :: others =>
            if significand ≠ 0 ∧ down = false then
              .error ⟨.numberTooLarge, others.length + Text.octets rest⟩
            else .ok (.real (withSign negative 0.0), rest)
      else .error (.within .badNumber text)

def readFraction (negative : Bool) (significand : Nat) (power : Int) (text : List Char) :
    Reading Number :=
  match digits text with
  | [] =>
      match text with
      | [] => .error ⟨.endInValue, 0⟩
      | _ :: _ => .error (.within .badNumber text)
  | fraction =>
      let (significand, excess) := absorb Numeral.maxWord64 significand fraction
      let power := power - ((fraction.length : Int) - excess.length)
      match afterDigits text with
      | 'e' :: rest => readExponent negative significand power rest
      | 'E' :: rest => readExponent negative significand power rest
      | rest => finishReal negative significand power rest

/-- A whole number.  Minus zero is not whole, and neither is a number below the
sixty-four-bit integers. -/
def wholeNumber (negative : Bool) (value : Nat) : Number :=
  if negative = false then .natural value
  else if value = 0 ∨ Numeral.maxInteger64 + 1 < value then
    .real (-(UInt64.ofNat value).toFloat)
  else .negative value

def readNumber (negative : Bool) (text : List Char) : Reading Number :=
  match text with
  | [] => .error ⟨.endInValue, 0⟩
  | c :: following =>
      if c.isDigit then
        if c = '0' ∧ digits following ≠ [] then .error (.within .badNumber following)
        else
          let (value, excess) := absorb Numeral.maxWord64 0 (digits text)
          match afterDigits text with
          | '.' :: rest => readFraction negative value excess.length rest
          | 'e' :: rest => readExponent negative value excess.length rest
          | 'E' :: rest => readExponent negative value excess.length rest
          | rest =>
              match excess with
              | [] => .ok (wholeNumber negative value, rest)
              | _ :: _ => finishReal negative value excess.length rest
      else .error (.within .badNumber text)

end BandedPalette.Json
