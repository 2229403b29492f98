import Mathlib.Algebra.Ring.Nat
import BandedPalette.Report.Summary
namespace BandedPalette

/-! What the words of a summary count.

A tally is told apart from its summary by one relation.  Two tallies put together
keep it, and each step puts the tally of one value behind the others.  The
extremes that a tally starts from are never seen, since a summary is made of a
tally only where there is a value.
-/

instance lawfulOrderMaxInt16 : Std.LawfulOrderMax Int16 := by
  apply Std.LawfulOrderMax.of_max_le_iff
  · intro left right bound
    simp only [max]
    split
    · rename_i ordered
      exact ⟨fun high => ⟨Int16.le_trans ordered high, high⟩, And.right⟩
    · rename_i ordered
      have below := (Int16.le_total left right).resolve_left ordered
      exact ⟨fun high => ⟨high, Int16.le_trans below high⟩, And.left⟩
  · intro left right
    simp only [max]
    split <;> simp

instance lawfulOrderMinInt16 : Std.LawfulOrderMin Int16 := by
  apply Std.LawfulOrderMin.of_le_min_iff
  · intro bound left right
    simp only [min]
    split
    · rename_i ordered
      exact ⟨fun low => ⟨low, Int16.le_trans low ordered⟩, And.left⟩
    · rename_i ordered
      have below := (Int16.le_total left right).resolve_left ordered
      exact ⟨fun low => ⟨Int16.le_trans low below, low⟩, And.right⟩
  · intro left right
    simp only [min]
    split <;> simp

namespace Summary

/-- The summary has counted exactly these values.  An extreme is one of them or
still the one that the tally started from. -/
structure Tallies (values : List Int16) (summary : Summary) : Prop where
  absoluteSum : summary.absoluteSum = UInt64.ofNat (values.map errorSize).sum
  nonZero : summary.nonZero = UInt64.ofNat (values.countP (· ≠ 0))
  total : summary.total = UInt64.ofNat values.length
  maxError : summary.maxError = Int16.minValue ∨ summary.maxError ∈ values
  minError : summary.minError = Int16.maxValue ∨ summary.minError ∈ values
  le_maxError : ∀ value ∈ values, value ≤ summary.maxError
  minError_le : ∀ value ∈ values, summary.minError ≤ value

theorem tallies_start : Tallies [] start where
  absoluteSum := rfl
  nonZero := rfl
  total := rfl
  maxError := .inl rfl
  minError := .inl rfl
  le_maxError := by simp
  minError_le := by simp

def single (value : Int16) : Summary where
  absoluteSum := UInt64.ofNat (errorSize value)
  maxError := value
  minError := value
  nonZero := if value = 0 then 0 else 1
  total := 1

theorem tallies_single (value : Int16) : Tallies [value] (single value) where
  absoluteSum := by simp [single]
  nonZero := by by_cases zero : value = 0 <;> simp [single, zero]
  total := rfl
  maxError := .inr List.mem_cons_self
  minError := .inr List.mem_cons_self
  le_maxError := by simp [single]
  minError_le := by simp [single]

def merge (left right : Summary) : Summary where
  absoluteSum := left.absoluteSum + right.absoluteSum
  maxError := max left.maxError right.maxError
  minError := min left.minError right.minError
  nonZero := left.nonZero + right.nonZero
  total := left.total + right.total

theorem Tallies.append {values other : List Int16} {first second : Summary}
    (front : Tallies values first) (back : Tallies other second) :
    Tallies (values ++ other) (first.merge second) where
  absoluteSum := by simp [merge, front.absoluteSum, back.absoluteSum]
  nonZero := by simp [merge, front.nonZero, back.nonZero]
  total := by simp [merge, front.total, back.total]
  maxError := by
    rcases Std.max_eq_or (a := first.maxError) (b := second.maxError) with same | same
    · rw [merge, same]
      exact front.maxError.imp_right (List.mem_append_left _)
    · rw [merge, same]
      exact back.maxError.imp_right (List.mem_append_right _)
  minError := by
    rcases Std.min_eq_or (a := first.minError) (b := second.minError) with same | same
    · rw [merge, same]
      exact front.minError.imp_right (List.mem_append_left _)
    · rw [merge, same]
      exact back.minError.imp_right (List.mem_append_right _)
  le_maxError := by
    intro value member
    rcases List.mem_append.mp member with within | within
    · exact Int16.le_trans (front.le_maxError value within) Std.left_le_max
    · exact Int16.le_trans (back.le_maxError value within) Std.right_le_max
  minError_le := by
    intro value member
    rcases List.mem_append.mp member with within | within
    · exact Int16.le_trans Std.min_le_left (front.minError_le value within)
    · exact Int16.le_trans Std.min_le_right (back.minError_le value within)

theorem add_eq_merge (summary : Summary) (value : Int16) :
    summary.add value = summary.merge (single value) := by
  by_cases zero : value = 0 <;> simp [add, merge, single, zero]

theorem Tallies.add {values : List Int16} {summary : Summary} (counted : Tallies values summary)
    (value : Int16) : Tallies (values ++ [value]) (summary.add value) :=
  summary.add_eq_merge value ▸ counted.append (tallies_single value)

theorem Tallies.foldl {done : List Int16} {summary : Summary} (counted : Tallies done summary)
    (values : List Int16) : Tallies (done ++ values) (values.foldl Summary.add summary) := by
  induction values generalizing done summary with
  | nil => simpa using counted
  | cons value rest ih =>
      rw [List.append_cons]
      exact ih (counted.add value)

theorem tallies_ofValues {values : List Int16} (nonempty : values ≠ []) :
    Tallies values (ofValues values) := by
  rw [ofValues, if_neg (by simpa using nonempty)]
  exact tallies_start.foldl values

theorem nonZero_ofValues (values : List Int16) :
    (ofValues values).nonZero = UInt64.ofNat (values.countP (· ≠ 0)) := by
  cases values with
  | nil => rfl
  | cons value rest => exact (tallies_ofValues (List.cons_ne_nil value rest)).nonZero

theorem total_ofValues (values : List Int16) :
    (ofValues values).total = UInt64.ofNat values.length := by
  cases values with
  | nil => rfl
  | cons value rest => exact (tallies_ofValues (List.cons_ne_nil value rest)).total

theorem maxError_ofValues_mem {values : List Int16} (nonempty : values ≠ []) :
    (ofValues values).maxError ∈ values := by
  have counted := tallies_ofValues nonempty
  -- Where nothing passed the least word that the tally starts with, every error is that word.
  rcases counted.maxError with first | member
  · obtain ⟨value, member⟩ := List.exists_mem_of_ne_nil values nonempty
    have high := counted.le_maxError value member
    have low : (ofValues values).maxError ≤ value := by
      rw [first, Int16.le_iff_toInt_le]
      exact value.minValue_le_toInt
    rwa [Int16.le_antisymm low high]
  · exact member

theorem minError_ofValues_mem {values : List Int16} (nonempty : values ≠ []) :
    (ofValues values).minError ∈ values := by
  have counted := tallies_ofValues nonempty
  rcases counted.minError with first | member
  · obtain ⟨value, member⟩ := List.exists_mem_of_ne_nil values nonempty
    have low := counted.minError_le value member
    have high : value ≤ (ofValues values).minError := by
      rw [first, Int16.le_iff_toInt_le]
      exact value.toInt_le
    rwa [Int16.le_antisymm low high]
  · exact member

/-- Nothing is counted exactly where every error is zero.  The count is taken in
a word, hence the bound. -/
theorem nonZero_ofValues_eq_zero_iff {values : List Int16} (few : values.length < 2 ^ 64) :
    (ofValues values).nonZero = 0 ↔ ∀ value ∈ values, value = 0 := by
  have bound : values.countP (· ≠ 0) < 2 ^ 64 :=
    Nat.lt_of_le_of_lt List.countP_le_length few
  rw [nonZero_ofValues, ← UInt64.toNat_inj, UInt64.toNat_ofNat_of_lt' bound, UInt64.toNat_zero,
    List.countP_eq_zero]
  simp

theorem extremes_ofValues_eq_zero_iff {values : List Int16} :
    (ofValues values).maxError = 0 ∧ (ofValues values).minError = 0 ↔
      ∀ value ∈ values, value = 0 := by
  by_cases nil : values = []
  · subst nil
    exact ⟨by simp, fun _ => ⟨rfl, rfl⟩⟩
  · constructor
    · rintro ⟨high, low⟩ value member
      have counted := tallies_ofValues nil
      have above := counted.le_maxError value member
      have below := counted.minError_le value member
      rw [high] at above
      rw [low] at below
      exact Int16.le_antisymm above below
    · intro zero
      exact ⟨zero _ (maxError_ofValues_mem nil), zero _ (minError_ofValues_mem nil)⟩

end Summary

end BandedPalette
