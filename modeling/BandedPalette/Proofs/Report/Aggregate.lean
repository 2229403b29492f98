import BandedPalette.Proofs.Report.Bands
namespace BandedPalette

namespace Summary

section Tallies

variable {values other : List Int16} {first second : Summary}

theorem Tallies.maxError_le (counted : Tallies values first) (again : Tallies values second) :
    first.maxError ≤ second.maxError := by
  rcases counted.maxError with least | member
  · rw [least, Int16.le_iff_toInt_le]
    exact second.maxError.minValue_le_toInt
  · exact again.le_maxError _ member

theorem Tallies.le_minError (counted : Tallies values first) (again : Tallies values second) :
    second.minError ≤ first.minError := by
  rcases counted.minError with greatest | member
  · rw [greatest, Int16.le_iff_toInt_le]
    exact second.minError.toInt_le
  · exact again.minError_le _ member

/-- Two tallies of the same values are the same. -/
theorem Tallies.unique (counted : Tallies values first) (again : Tallies values second) :
    first = second := by
  have absoluteSum := counted.absoluteSum.trans again.absoluteSum.symm
  have maxError := Int16.le_antisymm (counted.maxError_le again) (again.maxError_le counted)
  have minError := Int16.le_antisymm (again.le_minError counted) (counted.le_minError again)
  have nonZero := counted.nonZero.trans again.nonZero.symm
  have total := counted.total.trans again.total.symm
  cases first
  cases second
  simp_all

theorem Tallies.perm (counted : Tallies values first) (perm : values.Perm other) :
    Tallies other first where
  absoluteSum := by rw [counted.absoluteSum, (perm.map errorSize).sum_nat]
  nonZero := by rw [counted.nonZero, perm.countP_eq]
  total := by rw [counted.total, perm.length_eq]
  maxError := counted.maxError.imp_right perm.mem_iff.mp
  minError := counted.minError.imp_right perm.mem_iff.mp
  le_maxError := fun value member => counted.le_maxError value (perm.mem_iff.mpr member)
  minError_le := fun value member => counted.minError_le value (perm.mem_iff.mpr member)

theorem ofValues_perm (perm : values.Perm other) : ofValues values = ofValues other := by
  by_cases nil : values = []
  · subst nil
    rw [perm.nil_eq]
  · have filled : other ≠ [] := fun empty => nil (empty ▸ perm).eq_nil
    exact ((tallies_ofValues nil).perm perm).unique (tallies_ofValues filled)

theorem ofValues_append (front : values ≠ []) (back : other ≠ []) :
    ofValues (values ++ other) = (ofValues values).merge (ofValues other) := by
  have filled : values ++ other ≠ [] := List.append_ne_nil_of_left_ne_nil front other
  exact (tallies_ofValues filled).unique ((tallies_ofValues front).append (tallies_ofValues back))

end Tallies

/-- The fields of a summary over the integers.  No front of the values has a sum
that passes the end of its word, and the extremes are those of the values. -/
structure Aggregates (values : List Int16) (summary : Summary) : Prop
    extends Counted values summary where
  sum_fits : ∀ count, ((values.take count).map errorSize).sum < UInt64.size
  maxError : values ≠ [] → summary.maxError ∈ values ∧ ∀ value ∈ values, value ≤ summary.maxError
  minError : values ≠ [] → summary.minError ∈ values ∧ ∀ value ∈ values, summary.minError ≤ value
  empty : values = [] → summary.maxError = 0 ∧ summary.minError = 0
  meanSize : summary.meanSize =
    if values = [] then 0.0
    else (UInt64.ofNat (values.map errorSize).sum).toFloat / (UInt64.ofNat values.length).toFloat

theorem aggregates_ofValues {values : List Int16} (few : values.length < 2 ^ 49) :
    Aggregates values (ofValues values) where
  toCounted := counted_ofValues few
  sum_fits := by
    intro count
    have bound := sum_errorSize_le (values.take count)
    have front := List.length_take_le' count values
    simp only [UInt64.size]
    omega
  maxError := fun filled => ⟨maxError_ofValues_mem filled, fun _ => le_maxError_ofValues⟩
  minError := fun filled => ⟨minError_ofValues_mem filled, fun _ => minError_ofValues_le⟩
  empty := by
    rintro rfl
    exact ⟨rfl, rfl⟩
  meanSize := by
    rw [Summary.meanSize, if_congr (total_ofValues_eq_zero_iff few) rfl rfl,
      absoluteSum_ofValues, total_ofValues]

/-- The counts and sums of two summaries add up to those of a third. -/
structure Adds (front back whole : Summary) : Prop where
  absoluteSum : whole.absoluteSum.toNat = front.absoluteSum.toNat + back.absoluteSum.toNat
  nonZero : whole.nonZero.toNat = front.nonZero.toNat + back.nonZero.toNat
  total : whole.total.toNat = front.total.toNat + back.total.toNat

theorem adds_ofValues {front back : List Int16} (few : (front ++ back).length < 2 ^ 49) :
    Adds (ofValues front) (ofValues back) (ofValues (front ++ back)) := by
  have whole := counted_ofValues few
  rw [List.length_append] at few
  have first : Counted front (ofValues front) := counted_ofValues (by omega)
  have second : Counted back (ofValues back) := counted_ofValues (by omega)
  constructor
  case absoluteSum =>
    rw [whole.absoluteSum, first.absoluteSum, second.absoluteSum, List.map_append,
      List.sum_append]
  case nonZero => rw [whole.nonZero, first.nonZero, second.nonZero, List.countP_append]
  case total => rw [whole.total, first.total, second.total, List.length_append]

/-- A summary counts, sums and bounds exactly the errors of its entries.  In
another order they give the same record, from which mean and percentage are read.
Two lists of entries summarised apart give the summary of both. -/
theorem ofEntries_aggregates :
    (∀ entries : List Entry, entries.length < 2 ^ 47 →
      Aggregates (values entries) (ofEntries entries)) ∧
      (∀ left right : List Entry, left.Perm right → ofEntries left = ofEntries right) ∧
      ∀ front back : List Entry, front ≠ [] → back ≠ [] →
        ofEntries (front ++ back) = (ofEntries front).merge (ofEntries back) ∧
          ((front ++ back).length < 2 ^ 47 →
            Adds (ofEntries front) (ofEntries back) (ofEntries (front ++ back))) := by
  have words {entries : List Entry} (few : entries.length < 2 ^ 47) :
      (values entries).length < 2 ^ 49 := by
    rw [Report.length_values]
    omega
  have split (front back : List Entry) : values (front ++ back) = values front ++ values back :=
    List.flatMap_append
  refine ⟨?_, ?_, ?_⟩
  · intro entries few
    exact aggregates_ofValues (words few)
  · intro left right perm
    exact ofValues_perm (perm.flatMap_right _)
  · intro front back first second
    rw [ofEntries, split]
    refine ⟨ofValues_append (Report.values_ne_nil first) (Report.values_ne_nil second), ?_⟩
    intro few
    exact adds_ofValues (split front back ▸ words few)

def deepest : Entry :=
  ⟨⟨Fin.last 132⟩, Rgb.gray 0, Rgb.gray 0, ⟨Int16.minValue, -1, -2⟩⟩

def highest : Entry :=
  ⟨⟨Fin.last 132⟩, Rgb.gray 0, Rgb.gray 0, ⟨3, 0, Int16.maxValue⟩⟩

theorem ofEntries_aggregates_deepest :
    [deepest, highest].length < 2 ^ 47 ∧
      (ofEntries [deepest]).maxError = -1 ∧ (ofEntries [deepest]).absoluteSum.toNat = 32771 ∧
      (ofEntries [deepest, highest]).minError = Int16.minValue ∧
      Aggregates (values [deepest, highest]) (ofEntries [deepest, highest]) ∧
      ofEntries [highest, deepest] = ofEntries [deepest, highest] ∧
      ofEntries [deepest, highest] = (ofEntries [deepest]).merge (ofEntries [highest]) ∧
      Adds (ofEntries [deepest]) (ofEntries [highest]) (ofEntries [deepest, highest]) := by
  obtain ⟨aggregates, ordered, split⟩ := ofEntries_aggregates
  obtain ⟨merged, adds⟩ := split [deepest] [highest] (by decide) (by decide)
  have few : [deepest, highest].length < 2 ^ 47 := by decide
  exact ⟨few, by decide, (aggregates [deepest] (by decide)).absoluteSum, by decide,
    aggregates _ few, ordered _ _ (.swap deepest highest []), merged, adds few⟩

end Summary

end BandedPalette
