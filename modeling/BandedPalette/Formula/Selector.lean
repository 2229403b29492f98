import BandedPalette.Color
import BandedPalette.Index
namespace BandedPalette

/-- A step from a band's lower bound, 0, to its upper bound, 3. -/
abbrev Selector := Fin 4

def checkSelector (number : Nat) : Except DomainFault Selector :=
  if bound : number < 4 then .ok ⟨number, bound⟩ else .error (.selector number)

structure HueCode where
  red : Selector
  green : Selector
  blue : Selector
deriving DecidableEq, Repr

namespace HueCode

def lowBits (byte : UInt8) : Selector :=
  Fin.ofNat 4 byte.toNat

/-- Splits a packed code, red highest.  Bits above the low six are ignored. -/
def unpack (code : UInt8) : HueCode :=
  ⟨lowBits (code >>> 4), lowBits (code >>> 2), lowBits code⟩

def pack (code : HueCode) : UInt8 :=
  (UInt8.ofNat code.red.val <<< 4) ||| (UInt8.ofNat code.green.val <<< 2) |||
    UInt8.ofNat code.blue.val

def selector (code : HueCode) : Channel → Selector
  | .red => code.red
  | .green => code.green
  | .blue => code.blue

theorem pack_unpack {code : UInt8} (narrow : code ≤ 63) : (unpack code).pack = code := by
  have each : ∀ number < 64, (unpack (UInt8.ofNat number)).pack = UInt8.ofNat number := by decide
  have same := each code.toNat (Nat.lt_succ_of_le (UInt8.le_iff_toNat_le.mp narrow))
  rwa [UInt8.ofNat_toNat] at same

end HueCode

end BandedPalette
