import BandedPalette.Checksum
namespace BandedPalette.Checksum

section Shift

variable {left right register : BitVec 32}

theorem getLsbD_shift (register : BitVec 32) (place : Nat) :
    (shift register).getLsbD place =
      (register.getLsbD (1 + place) ^^ (register.getLsbD 0 && polynomial.getLsbD place)) := by
  unfold shift
  split
  case isTrue odd => rw [BitVec.getLsbD_xor, BitVec.getLsbD_ushiftRight, odd, Bool.true_and]
  case isFalse even =>
    rw [BitVec.getLsbD_ushiftRight, Bool.eq_false_iff.mpr even, Bool.false_and, Bool.xor_false]

theorem shift_xor (left right : BitVec 32) :
    shift (left ^^^ right) = shift left ^^^ shift right := by
  apply BitVec.eq_of_getLsbD_eq
  intro place _
  simp only [getLsbD_shift, BitVec.getLsbD_xor, Bool.and_xor_distrib_right, Bool.xor_assoc,
    Bool.xor_left_comm]

theorem getLsbD_shift_last (register : BitVec 32) :
    (shift register).getLsbD 31 = register.getLsbD 0 := by
  have above : register.getLsbD 32 = false := BitVec.getLsbD_of_ge register 32 (Nat.le_refl 32)
  -- The polynomial has the highest bit, so that bit tells whether it was added.
  have highest : polynomial.getLsbD 31 = true := rfl
  rw [getLsbD_shift, above, highest, Bool.and_true, Bool.false_xor]

theorem shift_injective (same : shift left = shift right) : left = right := by
  have lowest : left.getLsbD 0 = right.getLsbD 0 := by
    rw [← getLsbD_shift_last, ← getLsbD_shift_last, same]
  apply BitVec.eq_of_getLsbD_eq
  intro place _
  cases place with
  | zero => exact lowest
  | succ place =>
      have bits := congrArg (fun word => word.getLsbD place) same
      rw [getLsbD_shift, getLsbD_shift, lowest] at bits
      rw [Nat.add_comm]
      exact Bool.xor_left_inj.mp bits

end Shift

def one : BitVec 32 := 0x80000000#32

theorem getLsbD_one (place : Nat) : one.getLsbD place = decide (31 = place) := by
  rw [show one = BitVec.twoPow 32 31 from rfl, BitVec.getLsbD_twoPow]
  rfl

theorem shift_shiftLeft (register : BitVec 32) :
    shift (register <<< 1) ^^^ (if register.getLsbD 31 then one else 0#32) = register := by
  apply BitVec.eq_of_getLsbD_eq
  intro place bound
  have kept : (shift (register <<< 1)).getLsbD place =
      (decide (1 + place < 32) && register.getLsbD place) := by
    simp [getLsbD_shift, Nat.add_comm]
  -- What is lifted out of the register is its highest bit.
  have lost : (if register.getLsbD 31 then one else 0#32).getLsbD place =
      (register.getLsbD 31 && decide (31 = place)) := by
    cases register.getLsbD 31 <;> simp only [Bool.false_eq_true, if_true, if_false, getLsbD_one,
      BitVec.getLsbD_zero, Bool.true_and, Bool.false_and]
  rw [BitVec.getLsbD_xor, kept, lost]
  by_cases last : 31 = place
  · simp [← last]
  · have inside : 1 + place < 32 := by omega
    simp [inside, last]

section Shifts

variable {left right register : BitVec 32} {count : Nat}

theorem shifts_zero (count : Nat) : shifts count 0#32 = 0#32 := by
  induction count with
  | zero => rfl
  | succ count ih => rw [shifts, ih]; rfl

theorem shifts_xor (count : Nat) (left right : BitVec 32) :
    shifts count (left ^^^ right) = shifts count left ^^^ shifts count right := by
  induction count with
  | zero => rfl
  | succ count ih => rw [shifts, ih, shift_xor, shifts, shifts]

theorem shifts_add (further count : Nat) (register : BitVec 32) :
    shifts (further + count) register = shifts further (shifts count register) := by
  induction further with
  | zero => rw [Nat.zero_add, shifts]
  | succ further ih => rw [Nat.succ_add, shifts, ih, shifts]

theorem shifts_inj : shifts count left = shifts count right ↔ left = right := by
  induction count with
  | zero => rfl
  | succ count ih =>
      rw [shifts, shifts, ← ih]
      exact ⟨shift_injective, fun same => same ▸ rfl⟩

theorem shifts_eq_zero_iff : shifts count register = 0#32 ↔ register = 0#32 := by
  have injective : shifts count register = shifts count 0#32 ↔ register = 0#32 := shifts_inj
  rwa [shifts_zero] at injective

theorem shifts_shiftLeft
    (room : ∀ place, 32 - count ≤ place → register.getLsbD place = false) :
    shifts count (register <<< count) = register := by
  induction count with
  | zero => rw [shifts, BitVec.shiftLeft_zero]
  | succ count ih =>
      have top : (register <<< count).getLsbD 31 = false := by
        rw [BitVec.getLsbD_shiftLeft, room (31 - count) (by omega), Bool.and_false]
      have below : ∀ place, 32 - count ≤ place → register.getLsbD place = false :=
        fun place high => room place (by omega)
      have down := shift_shiftLeft (register <<< count)
      rw [top, if_neg Bool.false_ne_true, BitVec.xor_zero] at down
      rw [shifts_add, BitVec.shiftLeft_add]
      exact (congrArg (shifts count) down).trans (ih below)

end Shifts

/-- The product with the lowest bits of a factor, its highest powers first. -/
def productTo (factor register : BitVec 32) : Nat → BitVec 32
  | 0 => 0#32
  | count + 1 =>
      shift (productTo factor register count) ^^^ if factor.getLsbD count then register else 0#32

def product (factor register : BitVec 32) : BitVec 32 :=
  productTo factor register 32

/-- An operation on remainders that respects sums and shifts. -/
structure Linear (operation : BitVec 32 → BitVec 32) : Prop where
  xor : ∀ left right, operation (left ^^^ right) = operation left ^^^ operation right
  shift : ∀ register, operation (shift register) = shift (operation register)

namespace Linear

variable {operation : BitVec 32 → BitVec 32}

theorem map_zero (linear : Linear operation) : operation 0#32 = 0#32 := by
  have doubled := linear.xor 0#32 0#32
  rwa [BitVec.xor_self, BitVec.xor_self] at doubled

theorem map_productTo (linear : Linear operation) (factor register : BitVec 32) (count : Nat) :
    operation (productTo factor register count) =
      productTo factor (operation register) count := by
  induction count with
  | zero => exact linear.map_zero
  | succ count ih =>
      rw [productTo, productTo, linear.xor, linear.shift, ih]
      congr 1
      split
      · rfl
      · exact linear.map_zero

theorem map_product (linear : Linear operation) (factor register : BitVec 32) :
    operation (product factor register) = product factor (operation register) :=
  linear.map_productTo factor register 32

end Linear

theorem linear_shift : Linear shift where
  xor := shift_xor
  shift _ := rfl

theorem linear_shifts (count : Nat) : Linear (shifts count) where
  xor := shifts_xor count
  shift register := (shifts_add count 1 register).symm

theorem productTo_xor (factor left right : BitVec 32) (count : Nat) :
    productTo factor (left ^^^ right) count =
      productTo factor left count ^^^ productTo factor right count := by
  induction count with
  | zero => rw [productTo, productTo, productTo, BitVec.xor_self]
  | succ count ih =>
      rw [productTo, productTo, productTo, ih, shift_xor]
      cases factor.getLsbD count with
      | true => simp only [if_true]; ac_rfl
      | false => simp

theorem linear_product (factor : BitVec 32) : Linear (product factor) where
  xor left right := productTo_xor factor left right 32
  shift register := (linear_shift.map_product factor register).symm

theorem productTo_one {count : Nat} (bound : count ≤ 32) (register : BitVec 32) :
    productTo register one count = register <<< (32 - count) := by
  induction count with
  | zero => simp [productTo]
  | succ count ih =>
      have place : 31 - (32 - (count + 1)) = count := by omega
      have lifted : register <<< (32 - count) = register <<< (32 - (count + 1)) <<< 1 := by
        rw [← BitVec.shiftLeft_add]
        congr 1
        omega
      have highest : (register <<< (32 - (count + 1))).getLsbD 31 = register.getLsbD count := by
        rw [BitVec.getLsbD_shiftLeft, place]
        simp
      rw [productTo, ih (by omega), lifted, ← highest, shift_shiftLeft]

theorem product_one (register : BitVec 32) : product register one = register := by
  rw [product, productTo_one (Nat.le_refl 32), Nat.sub_self, BitVec.shiftLeft_zero]

/-- What a linear operation does to one, it does to every remainder. -/
theorem Linear.eq_product {operation : BitVec 32 → BitVec 32} (linear : Linear operation)
    (register : BitVec 32) : operation register = product register (operation one) := by
  rw [← linear.map_product, product_one]

theorem product_comm (left right : BitVec 32) : product left right = product right left := by
  rw [(linear_product left).eq_product, product_one]

theorem one_product (register : BitVec 32) : product one register = register := by
  rw [product_comm, product_one]

theorem product_assoc (left middle right : BitVec 32) :
    product (product left middle) right = product left (product middle right) := by
  rw [product_comm (product left middle), product_comm middle,
    (linear_product left).map_product right middle]

theorem shifts_eq_product (count : Nat) (register : BitVec 32) :
    shifts count register = product (shifts count one) register := by
  rw [(linear_shifts count).eq_product, product_comm]

theorem shifts_add_one (further count : Nat) :
    shifts (further + count) one = product (shifts further one) (shifts count one) := by
  rw [shifts_add, shifts_eq_product]

end BandedPalette.Checksum
