namespace BandedPalette.Numeral

/-- The number `± significand * 2 ^ exponent`. -/
structure Binary where
  negative : Bool
  significand : Nat
  exponent : Int
deriving DecidableEq, Repr

def Binary.minExponent : Int := -1074

/-- The significand from which on a double-precision number has an implicit
leading bit. -/
def Binary.hidden : Nat := Nat.pow 2 52

def Binary.ofFloat? (x : Float) : Option Binary :=
  let bits := x.toBits.toNat
  let negative := bits / Nat.pow 2 63 == 1
  let scale := bits / Nat.pow 2 52 % Nat.pow 2 11
  let fraction := bits % Nat.pow 2 52
  if scale = 2047 then none
  else if scale = 0 then some ⟨negative, fraction, minExponent⟩
  else some ⟨negative, hidden + fraction, minExponent + (scale - 1 : Nat)⟩

end BandedPalette.Numeral
