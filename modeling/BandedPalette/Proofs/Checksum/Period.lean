import Mathlib.Dynamics.PeriodicPts.Defs
import Mathlib.Tactic.Simproc.Factors
import BandedPalette.Proofs.Checksum.Register
namespace BandedPalette.Checksum

/-! The period of the register.

The remainders other than zero are as many as the powers of one that differ: every
such register is shifted through all of them before it comes back.  That one comes
back after so many shifts is seen by squaring, and that none comes back earlier
from inverses, one for each prime factor of their number.
-/

/-- The power of an exponent of so many binary digits. -/
def power (exponent : Nat) : Nat → BitVec 32
  | 0 => one
  | width + 1 =>
      let root := power (exponent / 2) width
      if exponent % 2 = 0 then product root root else shift (product root root)

theorem power_eq_shifts {exponent width : Nat} (bound : exponent < 2 ^ width) :
    power exponent width = shifts exponent one := by
  induction width generalizing exponent with
  | zero =>
      have nothing : exponent = 0 := by omega
      rw [nothing]
      rfl
  | succ width ih =>
      have half : exponent / 2 < 2 ^ width := by omega
      have square : product (shifts (exponent / 2) one) (shifts (exponent / 2) one) =
          shifts (exponent / 2 + exponent / 2) one := (shifts_add_one _ _).symm
      simp only [power, ih half, square]
      split
      case isTrue even =>
        have doubled : exponent / 2 + exponent / 2 = exponent := by omega
        rw [doubled]
      case isFalse odd =>
        have doubled : exponent / 2 + exponent / 2 + 1 = exponent := by omega
        rw [← shifts, Nat.succ_eq_add_one, doubled]

def period : Nat := 4294967295

theorem shifts_period (register : BitVec 32) : shifts period register = register := by
  have bound : period < 2 ^ 32 := by decide
  have around : power period 32 = one := by cbv
  rw [shifts_eq_product, ← power_eq_shifts bound, around, one_product]

theorem exists_inverse {factor : Nat} (prime : factor ∈ period.primeFactorsList) :
    ∃ inverse, product inverse (shifts (period / factor) one ^^^ one) = one := by
  -- The power without one prime factor differs from one by a unit, whose inverse is given.
  have factors : period.primeFactorsList = [3, 5, 17, 257, 65537] := by simp [period]
  have inverts {inverse : BitVec 32}
      (computed : product inverse (power (period / factor) 32 ^^^ one) = one) :
      product inverse (shifts (period / factor) one ^^^ one) = one := by
    have bound : period / factor < 2 ^ 32 :=
      Nat.lt_of_le_of_lt (Nat.div_le_self period factor) (by decide)
    rwa [power_eq_shifts bound] at computed
  simp only [factors, List.mem_cons, List.not_mem_nil, or_false] at prime
  rcases prime with rfl | rfl | rfl | rfl | rfl
  · exact ⟨0xC736EB52#32, inverts (by cbv)⟩
  · exact ⟨0x3D436701#32, inverts (by cbv)⟩
  · exact ⟨0xE1A0922E#32, inverts (by cbv)⟩
  · exact ⟨0x3C1C66B1#32, inverts (by cbv)⟩
  · exact ⟨0xD4E6C8CA#32, inverts (by cbv)⟩

theorem eq_zero_of_inverse {count : Nat} {inverse register : BitVec 32}
    (inverts : product inverse (shifts count one ^^^ one) = one)
    (fixed : shifts count register = register) : register = 0#32 := by
  have vanishes : product (shifts count one ^^^ one) register = 0#32 := by
    rw [product_comm, (linear_product register).xor, product_comm register, ← shifts_eq_product,
      product_one, fixed, BitVec.xor_self]
  calc register = product (product inverse (shifts count one ^^^ one)) register := by
        rw [inverts, one_product]
    _ = product inverse (product (shifts count one ^^^ one) register) := product_assoc _ _ _
    _ = 0#32 := by rw [vanishes, (linear_product inverse).map_zero]

theorem shifts_eq_iterate (count : Nat) (register : BitVec 32) :
    shifts count register = shift^[count] register := by
  induction count with
  | zero => rfl
  | succ count ih => rw [shifts, ih, Function.iterate_succ_apply']

theorem isPeriodicPt_iff {count : Nat} {register : BitVec 32} :
    Function.IsPeriodicPt shift count register ↔ shifts count register = register := by
  rw [shifts_eq_iterate]
  rfl

theorem minimalPeriod_shift {register : BitVec 32} (nonzero : register ≠ 0#32) :
    Function.minimalPeriod shift register = period := by
  have divides : Function.minimalPeriod shift register ∣ period :=
    (isPeriodicPt_iff.mpr (shifts_period register)).minimalPeriod_dvd
  obtain ⟨quotient, whole⟩ := divides
  by_contra earlier
  have proper : quotient ≠ 1 := by
    rintro rfl
    exact earlier (by rw [whole, Nat.mul_one])
  -- A smaller period divides what is left of the whole without one of its prime factors.
  obtain ⟨factor, prime, divides⟩ := Nat.exists_prime_and_dvd proper
  have member : factor ∈ period.primeFactorsList :=
    (Nat.mem_primeFactorsList (by decide)).mpr ⟨prime, whole ▸ divides.mul_left _⟩
  have part : Function.minimalPeriod shift register ∣ period / factor := by
    apply Nat.dvd_div_of_mul_dvd
    rw [whole, Nat.mul_comm factor]
    exact Nat.mul_dvd_mul_left _ divides
  have fixed := isPeriodicPt_iff.mp (Function.isPeriodicPt_iff_minimalPeriod_dvd.mpr part)
  obtain ⟨inverse, inverts⟩ := exists_inverse member
  exact nonzero (eq_zero_of_inverse inverts fixed)

/-- A register comes back after multiples of the period only. -/
theorem shifts_eq_self_iff {count : Nat} {register : BitVec 32} :
    shifts count register = register ↔ register = 0#32 ∨ period ∣ count := by
  by_cases zero : register = 0#32
  · simp [zero, shifts_zero]
  · rw [← isPeriodicPt_iff, Function.isPeriodicPt_iff_minimalPeriod_dvd,
      minimalPeriod_shift zero]
    simp [zero]

end BandedPalette.Checksum
