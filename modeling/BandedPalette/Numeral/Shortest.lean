import BandedPalette.Numeral.Binary
namespace BandedPalette.Numeral

/-! The shortest decimal that reads back as a given floating-point number.

A decimal reads back when it lies in the interval of reals that round to the
number.  For one digit, two digits and so on, the two neighbours of the number
on the grid of that many digits are tried in exact arithmetic; the first grid
with a neighbour in the interval gives the digits, and of two such neighbours
the nearer is taken, or the even one when both are equally near.
-/

structure Decimal where
  significand : Nat
  exponent : Int
deriving DecidableEq, Repr

def Decimal.reduce (d : Decimal) : Decimal :=
  if d.significand = 0 then ⟨0, 0⟩
  else if d.significand % 10 = 0 then Decimal.reduce ⟨d.significand / 10, d.exponent + 1⟩
  else d
termination_by d.significand
decreasing_by omega

structure RoundingInterval where
  low : Nat
  middle : Nat
  high : Nat
  denominator : Nat
  closed : Bool

/-- The reals that round to a positive double-precision number.  Below a power
of two the neighbours are twice as close as above it. -/
def Binary.interval (b : Binary) : RoundingInterval :=
  let narrow := b.significand = hidden ∧ minExponent < b.exponent
  let scale := b.exponent - 2
  let up := Nat.pow 2 scale.toNat
  { low := (4 * b.significand - if narrow then 1 else 2) * up
    middle := 4 * b.significand * up
    high := (4 * b.significand + 2) * up
    denominator := Nat.pow 2 (-scale).toNat
    closed := b.significand % 2 = 0 }

def RoundingInterval.inUnits (i : RoundingInterval) (exponent : Int) : RoundingInterval :=
  let shrink := Nat.pow 10 exponent.toNat
  let grow := Nat.pow 10 (-exponent).toNat
  { i with
    low := i.low * grow
    middle := i.middle * grow
    high := i.high * grow
    denominator := i.denominator * shrink }

def RoundingInterval.magnitude (i : RoundingInterval) : Int :=
  if i.denominator ≤ i.middle then
    ((Nat.toDigits 10 (i.middle / i.denominator)).length : Int) - 1
  else
    -((Nat.toDigits 10 ((i.denominator + i.middle - 1) / i.middle - 1)).length : Int)

def RoundingInterval.holds (i : RoundingInterval) (n : Nat) : Bool :=
  let point := n * i.denominator
  if i.closed then i.low ≤ point && point ≤ i.high else i.low < point && point < i.high

def RoundingInterval.neighbour? (i : RoundingInterval) : Option Nat :=
  let below := i.middle / i.denominator
  let above := below + 1
  match i.holds below, i.holds above with
  | true, false => some below
  | false, true => some above
  | false, false => none
  | true, true =>
      let shortfall := i.middle - below * i.denominator
      let excess := above * i.denominator - i.middle
      if shortfall < excess then some below
      else if excess < shortfall then some above
      else if below % 2 = 0 then some below
      else some above

def mostDigits : Nat := 17

def Binary.shortest (b : Binary) : Decimal :=
  if b.significand = 0 then ⟨0, 0⟩
  else
    let interval := b.interval
    let magnitude := interval.magnitude
    let found := (List.range mostDigits).findSome? fun (more : Nat) =>
      let exponent := magnitude - (more : Int)
      (interval.inUnits exponent).neighbour?.map fun n => Decimal.mk n exponent
    (found.getD ⟨b.significand, 0⟩).reduce

/-- How a decimal is laid out as text: positional between two powers of ten of
the first digit, with an exponent outside. -/
structure Layout where
  least : Int
  most : Int
deriving Repr

def positional (digits : List Char) (whole : Int) : List Char :=
  if whole ≤ 0 then
    ['0', '.'] ++ List.replicate (-whole).toNat '0' ++ digits
  else
    let front := digits.take whole.toNat
    let filled := front ++ List.replicate (whole.toNat - front.length) '0'
    match digits.drop whole.toNat with
    | [] => filled ++ ['.', '0']
    | fraction => filled ++ '.' :: fraction

def scientific (digits : List Char) (power : Int) : List Char :=
  let mark := if power < 0 then ['e', '-'] else ['e', '+']
  let size := mark ++ Nat.toDigits 10 power.natAbs
  match digits with
  | [] => size
  | [only] => only :: size
  | first :: others => first :: '.' :: (others ++ size)

def Layout.write (layout : Layout) (d : Decimal) : List Char :=
  let digits := Nat.toDigits 10 d.significand
  let power := (digits.length : Int) - 1 + d.exponent
  if layout.least ≤ power ∧ power ≤ layout.most then positional digits (power + 1)
  else scientific digits power

def Layout.text (layout : Layout) (b : Binary) : String :=
  let sign := if b.negative then ['-'] else []
  String.ofList (sign ++ layout.write b.shortest)

end BandedPalette.Numeral
