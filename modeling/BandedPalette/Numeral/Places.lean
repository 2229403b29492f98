import BandedPalette.Numeral.Binary
namespace BandedPalette.Numeral

/-- The whole number nearest to a fraction, the even one of two. -/
def roundDiv (numerator denominator : Nat) : Nat :=
  let below := numerator / denominator
  let rest := numerator % denominator
  if 2 * rest < denominator then below
  else if denominator < 2 * rest then below + 1
  else below + below % 2

def Binary.toPlaces (places : Nat) (b : Binary) : String :=
  let scaled := roundDiv (b.significand * Nat.pow 10 places * Nat.pow 2 b.exponent.toNat)
    (Nat.pow 2 (-b.exponent).toNat)
  let digits := Nat.toDigits 10 scaled
  let filled := List.replicate (places + 1 - digits.length) '0' ++ digits
  let whole := filled.take (filled.length - places)
  let fraction := filled.drop (filled.length - places)
  let sign := if b.negative then ['-'] else []
  String.ofList (sign ++ whole ++ if places = 0 then [] else '.' :: fraction)

end BandedPalette.Numeral
