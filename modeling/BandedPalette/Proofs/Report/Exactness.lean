import BandedPalette.Proofs.Report.Comparison
import BandedPalette.Proofs.Report.Tally
namespace BandedPalette.Report

theorem forall_values_eq_zero_iff {entries : List Entry} :
    (∀ error ∈ Summary.values entries, error = 0) ↔ ∀ entry ∈ entries, entry.isExact := by
  simp only [Summary.values, List.mem_flatMap, Entry.isExact_iff]
  constructor
  · intro zeros entry member error within
    exact zeros error ⟨entry, member, within⟩
  · rintro zeros error ⟨entry, member, within⟩
    exact zeros entry member error within

theorem ranking_eq_nil_iff {report : Report} :
    report.ranking = [] ↔ ∀ entry ∈ report.entries, entry.isExact := by
  rw [ranking, ← List.perm_nil, (List.mergeSort_perm _ _).congr_left, List.perm_nil,
    List.filter_eq_nil_iff]
  simp

theorem worst_eq_nil_iff {report : Report} :
    (∀ count, report.worst count = []) ↔ ∀ entry ∈ report.entries, entry.isExact := by
  rw [← ranking_eq_nil_iff]
  constructor
  · intro empty
    have whole := empty report.ranking.length
    rwa [worst, List.take_length] at whole
  · intro empty count
    rw [worst, empty, List.take_nil]

def mismatches (left right : List Rgb) : List (Index × Channel) :=
  channels.filter fun (index, which) =>
    (left[index.number]?).map (·.channel which) ≠ (right[index.number]?).map (·.channel which)

/-- The errors that are not zero are those of the channels that differ. -/
theorem countP_values_entriesOf (encoder wanted : Encoder) :
    (Summary.values (entriesOf encoder wanted)).countP (· ≠ 0) =
      (mismatches encoder.palette wanted.palette).length := by
  rw [values_entriesOf, List.countP_map, List.countP_eq_length_filter, mismatches]
  congr 2
  funext ⟨index, which⟩
  simp [Encoder.getElem?_palette, Difference.channel_ofColors_eq_zero_iff]

theorem forall_isExact_entriesOf_iff {encoder wanted : Encoder} :
    (∀ entry ∈ entriesOf encoder wanted, entry.isExact) ↔ wanted.palette = encoder.palette := by
  rw [Encoder.palette_inj]
  constructor
  · intro exact
    funext index
    have member := List.mem_of_getElem? (getElem?_entriesOf encoder wanted index)
    exact (Entry.isExact_compare_iff.mp (exact _ member)).symm
  · rintro rfl entry member
    obtain ⟨index, _, rfl⟩ := List.mem_map.mp member
    exact Entry.isExact_compare_iff.mpr rfl

theorem length_values_entriesOf (encoder wanted : Encoder) :
    (Summary.values (entriesOf encoder wanted)).length = 399 := by
  rw [values_entriesOf, List.length_map, length_channels]

theorem nonZero_summary_entriesOf (encoder wanted : Encoder) :
    (Report.mk (entriesOf encoder wanted)).summary.nonZero.toNat =
      (mismatches encoder.palette wanted.palette).length := by
  have bound := List.countP_le_length (p := (· ≠ 0))
    (l := Summary.values (entriesOf encoder wanted))
  rw [countP_values_entriesOf, length_values_entriesOf] at bound
  rw [summary, Summary.ofEntries, Summary.nonZero_ofValues, countP_values_entriesOf,
    UInt64.toNat_ofNat_of_lt' (Nat.lt_of_le_of_lt bound (by decide))]

theorem total_summary_entriesOf (encoder wanted : Encoder) :
    (Report.mk (entriesOf encoder wanted)).summary.total = 399 := by
  rw [summary, Summary.ofEntries, Summary.total_ofValues, length_values_entriesOf]
  rfl

theorem nonZero_summary_eq_zero_iff {encoder wanted : Encoder} :
    (Report.mk (entriesOf encoder wanted)).summary.nonZero = 0 ↔
      wanted.palette = encoder.palette := by
  have few : (Summary.values (entriesOf encoder wanted)).length < 2 ^ 64 := by
    rw [length_values_entriesOf]
    decide
  rw [summary, Summary.ofEntries, Summary.nonZero_ofValues_eq_zero_iff few,
    forall_values_eq_zero_iff, forall_isExact_entriesOf_iff]

theorem extremes_summary_eq_zero_iff {encoder wanted : Encoder} :
    (Report.mk (entriesOf encoder wanted)).summary.maxError = 0 ∧
        (Report.mk (entriesOf encoder wanted)).summary.minError = 0 ↔
      wanted.palette = encoder.palette := by
  rw [summary, Summary.ofEntries, Summary.extremes_ofValues_eq_zero_iff,
    forall_values_eq_zero_iff, forall_isExact_entriesOf_iff]

/-- A comparison needs a colour for every place.  It counts the channels that
differ, and shows in each of its parts whether there are any. -/
theorem compare_exact_iff (reference : List Rgb) (encoder : Encoder) :
    ((∃ report, compare reference encoder = .ok report) ↔ reference.length = 133) ∧
      ∀ report, compare reference encoder = .ok report →
        report.entries.length = 133 ∧
          (∀ index : Index, ∃ entry color, report.entries[index.number]? = some entry ∧
            reference[index.number]? = some color ∧
            entry.Compares index (encoder index) color) ∧
          report.summary.nonZero.toNat = (mismatches encoder.palette reference).length ∧
          report.summary.total = 399 ∧
          (reference = encoder.palette ↔ report.summary.nonZero = 0) ∧
          (reference = encoder.palette ↔
            report.summary.maxError = 0 ∧ report.summary.minError = 0) ∧
          (reference = encoder.palette ↔ ∀ entry ∈ report.entries, entry.isExact) ∧
          (reference = encoder.palette ↔ ∀ count, report.worst count = []) := by
  refine ⟨compare_eq_ok_iff, ?_⟩
  intro report compared
  obtain ⟨wanted, rfl, rfl⟩ := exists_entriesOf compared
  have exact : (∀ entry ∈ entriesOf encoder wanted, entry.isExact) ↔
      wanted.palette = encoder.palette := forall_isExact_entriesOf_iff
  refine ⟨length_entriesOf encoder wanted, ?_, nonZero_summary_entriesOf encoder wanted,
    total_summary_entriesOf encoder wanted, nonZero_summary_eq_zero_iff.symm,
    extremes_summary_eq_zero_iff.symm, exact.symm, worst_eq_nil_iff.trans exact |>.symm⟩
  intro index
  exact ⟨_, _, getElem?_entriesOf encoder wanted index, wanted.getElem?_palette index,
    Entry.compares_compare index (encoder index) (wanted index)⟩

end BandedPalette.Report
