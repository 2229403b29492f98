import BandedPalette.Proofs.Report.Bands
import BandedPalette.Proofs.Report.Ranking
namespace BandedPalette

/-- What lies between two words is no larger than the larger of them. -/
theorem errorSize_le_of_between {low value high : Int16} (above : low ≤ value)
    (below : value ≤ high) : errorSize value ≤ max (errorSize high) (errorSize low) := by
  rw [Int16.le_iff_toInt_le] at above below
  simp only [errorSize]
  omega

namespace Summary

variable {values : List Int16}

theorem errorSize_le_maxSize {value : Int16} (member : value ∈ values) :
    errorSize value ≤ (ofValues values).maxSize :=
  errorSize_le_of_between (minError_ofValues_le member) (le_maxError_ofValues member)

theorem exists_errorSize_eq_maxSize (filled : values ≠ []) :
    ∃ value ∈ values, errorSize value = (ofValues values).maxSize := by
  rcases Std.max_eq_or (a := errorSize (ofValues values).maxError)
    (b := errorSize (ofValues values).minError) with same | same
  · exact ⟨_, maxError_ofValues_mem filled, same.symm⟩
  · exact ⟨_, minError_ofValues_mem filled, same.symm⟩

end Summary

namespace Entry

theorem max?_errorSize (entry : Entry) :
    (entry.error.toList.map errorSize).max? = some entry.maxSize := rfl

theorem errorSize_le_maxSize {entry : Entry} {error : Int16} (member : error ∈ entry.error.toList) :
    errorSize error ≤ entry.maxSize :=
  (List.max?_eq_some_iff.mp entry.max?_errorSize).2 _ (List.mem_map_of_mem member)

theorem exists_errorSize_eq_maxSize (entry : Entry) :
    ∃ error ∈ entry.error.toList, errorSize error = entry.maxSize :=
  List.mem_map.mp (List.max?_eq_some_iff.mp entry.max?_errorSize).1

theorem maxSize_of_isExact {entry : Entry} (exact : entry.isExact) : entry.maxSize = 0 := by
  obtain ⟨error, member, size⟩ := entry.exists_errorSize_eq_maxSize
  rw [← size, isExact_iff.mp exact error member]
  rfl

end Entry

namespace Report

theorem max?_maxSize {entries : List Entry} (filled : entries ≠ []) :
    (entries.map Entry.maxSize).max? = some (Summary.ofEntries entries).maxSize := by
  have bounded : ∀ entry ∈ entries, entry.maxSize ≤ (Summary.ofEntries entries).maxSize := by
    intro entry listed
    obtain ⟨error, within, size⟩ := entry.exists_errorSize_eq_maxSize
    rw [← size]
    exact Summary.errorSize_le_maxSize (List.mem_flatMap.mpr ⟨entry, listed, within⟩)
  rw [List.max?_eq_some_iff]
  constructor
  · obtain ⟨error, member, size⟩ :=
      Summary.exists_errorSize_eq_maxSize (values_ne_nil filled)
    obtain ⟨entry, listed, within⟩ := List.mem_flatMap.mp member
    have reached : (Summary.ofEntries entries).maxSize ≤ entry.maxSize := by
      rw [Summary.ofEntries, ← size]
      exact Entry.errorSize_le_maxSize within
    exact List.mem_map.mpr ⟨entry, listed, Nat.le_antisymm (bounded entry listed) reached⟩
  · exact List.forall_mem_map.mpr bounded

section Worst

variable {report : Report}

theorem mem_ranking {entry : Entry} :
    entry ∈ report.ranking ↔ entry ∈ report.entries ∧ entry.isExact = false := by
  simp [ranking]

theorem pairwise_ranking (report : Report) :
    report.ranking.Pairwise fun left right => right.maxSize ≤ left.maxSize := by
  rw [← map_fst_rankedEntries, List.pairwise_map]
  exact report.pairwise_rankedEntries.imp Outranks.maxSize_le

/-- The first of the ranking is as large as any entry, since those that are not
ranked have no size at all. -/
theorem maxSize_first {entry : Entry} {rest : List Entry}
    (ranked : report.ranking = entry :: rest) : entry.maxSize = report.summary.maxSize := by
  have ordered := report.pairwise_ranking
  rw [ranked, List.pairwise_cons] at ordered
  have listed : entry ∈ report.entries := (mem_ranking.mp (ranked ▸ List.mem_cons_self)).1
  have largest : ∀ other ∈ report.entries, other.maxSize ≤ entry.maxSize := by
    intro other member
    cases exact : other.isExact with
    | true =>
        rw [Entry.maxSize_of_isExact exact]
        exact Nat.zero_le _
    | false =>
        have place := mem_ranking.mpr ⟨member, exact⟩
        rw [ranked] at place
        rcases List.mem_cons.mp place with rfl | behind
        · exact Nat.le_refl _
        · exact ordered.1 other behind
  have greatest : (report.entries.map Entry.maxSize).max? = some entry.maxSize :=
    List.max?_eq_some_iff.mpr ⟨List.mem_map_of_mem listed, List.forall_mem_map.mpr largest⟩
  rw [max?_maxSize (List.ne_nil_of_mem listed)] at greatest
  exact (Option.some.inj greatest).symm

theorem worst_ne_nil_iff {count : Nat} (some : 0 < count) :
    report.worst count ≠ [] ↔ ∃ error ∈ Summary.values report.entries, error ≠ 0 := by
  rw [worst, ne_eq, List.take_eq_nil_iff, ranking_eq_nil_iff, ← forall_values_eq_zero_iff]
  simp [Nat.ne_of_gt some]

end Worst

/-- The extremes of a report tell the largest size of an entry, zero where there
is none.  If anything is counted as an error, a list of the worst entries begins
with one of that size.  The count is a word, hence the bound, which every list
that fits in memory keeps. -/
theorem largest_sizes_agree (report : Report) :
    report.summary.maxSize = (report.entries.map Entry.maxSize).max?.getD 0 ∧
      ∀ count, 0 < count →
        (report.worst count ≠ [] ↔ ∃ error ∈ Summary.values report.entries, error ≠ 0) ∧
          (3 * report.entries.length < 2 ^ 64 →
            (report.worst count ≠ [] ↔ 0 < report.summary.nonZero)) ∧
          ∀ entry, (report.worst count).head? = some entry →
            entry.maxSize = report.summary.maxSize := by
  constructor
  · by_cases nil : report.entries = []
    · rw [summary, nil]
      rfl
    · rw [max?_maxSize nil]
      rfl
  · intro count some
    refine ⟨worst_ne_nil_iff some, ?_, ?_⟩
    · intro few
      rw [← length_values] at few
      rw [worst_ne_nil_iff some, UInt64.pos_iff_ne_zero, ne_eq, summary, Summary.ofEntries,
        Summary.nonZero_ofValues_eq_zero_iff few]
      simp
    · intro entry first
      rw [worst, List.head?_take, if_neg (Nat.ne_of_gt some)] at first
      obtain ⟨rest, ranked⟩ := List.head?_eq_some_iff.mp first
      exact maxSize_first ranked

def farApart : Report :=
  ⟨[⟨⟨Fin.last 132⟩, Rgb.gray 0, Rgb.gray 0, ⟨3, 0, Int16.maxValue⟩⟩,
    ⟨⟨Fin.last 132⟩, Rgb.gray 0, Rgb.gray 0, ⟨Int16.minValue, -1, -2⟩⟩]⟩

theorem largest_sizes_agree_farApart :
    3 * farApart.entries.length < 2 ^ 64 ∧ farApart.summary.maxSize = 32768 ∧
      0 < farApart.summary.nonZero ∧ farApart.worst 1 ≠ [] ∧
      ∀ entry, (farApart.worst 1).head? = some entry → entry.maxSize = 32768 := by
  obtain ⟨agree, listed⟩ := largest_sizes_agree farApart
  obtain ⟨shown, counted, largest⟩ := listed 1 (by decide)
  have few : 3 * farApart.entries.length < 2 ^ 64 := by decide
  have size : farApart.summary.maxSize = 32768 := agree.trans (by decide)
  have filled : farApart.worst 1 ≠ [] := shown.mpr ⟨3, by decide, by decide⟩
  refine ⟨few, size, (counted few).mp filled, filled, ?_⟩
  intro entry first
  exact (largest entry first).trans size

end Report

end BandedPalette
