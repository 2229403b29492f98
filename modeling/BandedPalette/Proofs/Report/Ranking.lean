import BandedPalette.Report
namespace BandedPalette

theorem pairwise_zipIdx (items : List α) :
    items.zipIdx.Pairwise fun left right => left.2 < right.2 := by
  rw [← List.pairwise_map, List.zipIdx_map_snd]
  exact List.pairwise_lt_range' 1

/-- Items that tie stay in the order that they are sorted from. -/
theorem pairwise_stableSort {before : α → α → Bool} {earlier : α → α → Prop} {items : List α}
    (trans : ∀ left middle right, before left middle = true → before middle right = true →
      before left right = true)
    (total : ∀ left right, (before left right || before right left) = true)
    (given : items.Pairwise earlier) :
    (items.mergeSort before).Pairwise fun left right =>
      before left right = true ∧ (before right left = true → earlier left right) := by
  have perm := List.mergeSort_perm items.zipIdx (List.zipIdxLE before)
  have sorted := List.pairwise_mergeSort (List.zipIdxLE_trans trans) (List.zipIdxLE_total total)
    items.zipIdx
  have distinct := (perm.pairwise_iff Ne.symm).mpr
    ((pairwise_zipIdx items).imp Nat.ne_of_lt)
  rw [← List.mergeSort_zipIdx, List.pairwise_map]
  refine (sorted.and distinct).imp_of_mem ?_
  intro first second firstMember secondMember pair
  obtain ⟨left, i⟩ := first
  obtain ⟨right, j⟩ := second
  obtain ⟨listed, apart⟩ := pair
  have leftAt : items[i]? = some left :=
    List.mem_zipIdx_iff_getElem?.mp (perm.mem_iff.mp firstMember)
  have rightAt : items[j]? = some right :=
    List.mem_zipIdx_iff_getElem?.mp (perm.mem_iff.mp secondMember)
  obtain ⟨leftBound, rfl⟩ := List.getElem?_eq_some_iff.mp leftAt
  obtain ⟨rightBound, rfl⟩ := List.getElem?_eq_some_iff.mp rightAt
  simp only [List.zipIdxLE] at listed
  split at listed
  case isFalse => cases listed
  case isTrue ahead =>
    refine ⟨ahead, fun back => ?_⟩
    rw [if_pos back] at listed
    have first : i ≤ j := of_decide_eq_true listed
    exact List.pairwise_iff_getElem.mp given i j leftBound rightBound
      (Nat.lt_of_le_of_ne first apart)

abbrev Placed := Entry × Nat

/-- The larger error comes first, then the lower index, then the earlier
position. -/
inductive Outranks (left right : Placed) : Prop where
  | size (larger : right.1.maxSize < left.1.maxSize)
  | index (same : left.1.maxSize = right.1.maxSize)
      (lower : left.1.index.number < right.1.index.number)
  | position (same : left.1.maxSize = right.1.maxSize)
      (tied : left.1.index.number = right.1.index.number) (earlier : left.2 < right.2)

theorem Outranks.asymm {left right : Placed} (ahead : Outranks left right) :
    ¬ Outranks right left := by
  intro behind
  cases ahead <;> cases behind <;> omega

theorem Outranks.maxSize_le {left right : Placed} (ahead : Outranks left right) :
    right.1.maxSize ≤ left.1.maxSize := by
  cases ahead with
  | size larger => exact Nat.le_of_lt larger
  | index same => exact Nat.le_of_eq same.symm
  | position same => exact Nat.le_of_eq same.symm

namespace Entry

theorem precedes_iff {left right : Entry} :
    left.precedes right ↔ right.maxSize < left.maxSize ∨
      left.maxSize = right.maxSize ∧ left.index.number ≤ right.index.number := by
  simp [precedes]

theorem precedes_trans (left middle right : Entry) (first : left.precedes middle)
    (second : middle.precedes right) : left.precedes right := by
  rw [precedes_iff] at first second ⊢
  omega

theorem precedes_total (left right : Entry) : left.precedes right || right.precedes left := by
  rw [Bool.or_eq_true, precedes_iff, precedes_iff]
  omega

end Entry

namespace Report

def inexact (report : Report) : List Placed :=
  report.entries.zipIdx.filter fun (entry, _) => !entry.isExact

/-- All entries with an error in the order of their ranks. -/
structure Ranks (report : Report) (ranked : List Placed) : Prop where
  perm : ranked.Perm report.inexact
  ordered : ranked.Pairwise Outranks

/-- What is listed when a number of worst entries is asked for. -/
structure Selects (report : Report) (ranked : List Placed) (count : Nat) : Prop where
  front : report.worst count = (ranked.take count).map Prod.fst
  length : (report.worst count).length =
    min count (report.entries.countP fun entry => !entry.isExact)
  inexact : ∀ entry ∈ report.worst count, entry.isExact = false
  largest : ∀ shown ∈ ranked.take count, ∀ omitted ∈ report.inexact,
    omitted ∉ ranked.take count → omitted.1.maxSize ≤ shown.1.maxSize
  genuine : ∀ shown ∈ ranked.take count, report.entries[shown.2]? = some shown.1
  distinct : ((ranked.take count).map Prod.snd).Nodup
  shared : (report.worst count ++ (ranked.drop count).map Prod.fst).Perm
    (report.entries.filter fun entry => !entry.isExact)
  grows : ∀ more, count ≤ more → report.worst count <+: report.worst more

section Ranking

variable (report : Report)

theorem map_fst_inexact :
    report.inexact.map Prod.fst = report.entries.filter fun entry => !entry.isExact := by
  have whole := List.zipIdx_map_fst 0 report.entries
  conv => rhs; rw [← whole, List.filter_map]
  rfl

theorem pairwise_inexact : report.inexact.Pairwise fun left right => left.2 < right.2 :=
  (pairwise_zipIdx report.entries).filter _

theorem mem_inexact {placed : Placed} : placed ∈ report.inexact ↔
    report.entries[placed.2]? = some placed.1 ∧ placed.1.isExact = false := by
  simp [inexact, List.mem_zipIdx_iff_getElem?]

def rankedEntries : List Placed :=
  report.inexact.mergeSort fun left right => left.1.precedes right.1

theorem map_fst_rankedEntries : report.rankedEntries.map Prod.fst = report.ranking := by
  rw [rankedEntries, ranking, ← map_fst_inexact]
  exact List.map_mergeSort fun _ _ _ _ => rfl

theorem pairwise_rankedEntries : report.rankedEntries.Pairwise Outranks := by
  have sorted := pairwise_stableSort (fun left middle right : Placed =>
      Entry.precedes_trans left.1 middle.1 right.1)
    (fun left right => Entry.precedes_total left.1 right.1) report.pairwise_inexact
  refine sorted.imp ?_
  intro left right pair
  obtain ⟨listed, tied⟩ := pair
  rcases Entry.precedes_iff.mp listed with larger | ⟨same, lower⟩
  · exact .size larger
  · rcases Nat.lt_or_eq_of_le lower with lower | equal
    · exact .index same lower
    · have back : right.1.precedes left.1 :=
        Entry.precedes_iff.mpr (.inr ⟨same.symm, Nat.le_of_eq equal.symm⟩)
      exact .position same equal (tied back)

theorem ranks_rankedEntries : report.Ranks report.rankedEntries where
  perm := List.mergeSort_perm _ _
  ordered := report.pairwise_rankedEntries

theorem worst_eq_front (count : Nat) :
    report.worst count = (report.rankedEntries.take count).map Prod.fst := by
  rw [worst, ← map_fst_rankedEntries, List.map_take]

variable {report} {ranked other : List Placed}

theorem Ranks.unique (ranks : report.Ranks ranked) (again : report.Ranks other) :
    other = ranked :=
  List.Perm.eq_of_pairwise (fun _ _ _ _ ahead behind => absurd behind ahead.asymm)
    again.ordered ranks.ordered (again.perm.trans ranks.perm.symm)

theorem Ranks.mem_iff (ranks : report.Ranks ranked) {placed : Placed} : placed ∈ ranked ↔
    report.entries[placed.2]? = some placed.1 ∧ placed.1.isExact = false :=
  ranks.perm.mem_iff.trans report.mem_inexact

theorem Ranks.perm_entries (ranks : report.Ranks ranked) :
    (ranked.map Prod.fst).Perm (report.entries.filter fun entry => !entry.isExact) :=
  report.map_fst_inexact ▸ ranks.perm.map Prod.fst

theorem Ranks.nodup_positions (ranks : report.Ranks ranked) : (ranked.map Prod.snd).Nodup := by
  have distinct : (report.inexact.map Prod.snd).Nodup :=
    List.pairwise_map.mpr (report.pairwise_inexact.imp Nat.ne_of_lt)
  exact (ranks.perm.map Prod.snd).nodup_iff.mpr distinct

/-- What is not in the front of a ranking is outranked by all that is. -/
theorem Ranks.outranks (ranks : report.Ranks ranked) {count : Nat} {shown omitted : Placed}
    (front : shown ∈ ranked.take count) (member : omitted ∈ ranked)
    (left : omitted ∉ ranked.take count) : Outranks shown omitted := by
  have ordered := ranks.ordered
  rw [← List.take_append_drop count ranked] at ordered member
  have behind := (List.mem_append.mp member).resolve_left left
  exact (List.pairwise_append.mp ordered).2.2 shown front omitted behind

theorem Ranks.selects (ranks : report.Ranks ranked) (count : Nat) :
    report.Selects ranked count := by
  have front : report.worst count = (ranked.take count).map Prod.fst := by
    rw [worst_eq_front, ranks.unique report.ranks_rankedEntries]
  have within {placed : Placed} (shown : placed ∈ ranked.take count) :=
    ranks.mem_iff.mp (List.mem_of_mem_take shown)
  constructor
  case front => exact front
  case length =>
    have total := ranks.perm_entries.length_eq
    rw [List.length_map, ← List.countP_eq_length_filter] at total
    rw [front, List.length_map, List.length_take, total]
  case inexact =>
    intro entry member
    rw [front] at member
    obtain ⟨placed, shown, rfl⟩ := List.mem_map.mp member
    exact (within shown).2
  case largest =>
    intro shown listed omitted member left
    exact (ranks.outranks listed (ranks.perm.mem_iff.mpr member) left).maxSize_le
  case genuine => exact fun placed shown => (within shown).1
  case distinct =>
    rw [List.map_take]
    exact ranks.nodup_positions.sublist (List.take_sublist _ _)
  case shared =>
    rw [front, ← List.map_append, List.take_append_drop]
    exact ranks.perm_entries
  case grows =>
    intro more atMost
    exact List.take_prefix_take_left atMost

end Ranking

/-- The entries with an error have exactly one ranking, and as many of the worst
as are asked for, or all that there are, are the front of it. -/
theorem worst_selects_front (report : Report) :
    ∃ ranked, report.Ranks ranked ∧ (∀ other, report.Ranks other → other = ranked) ∧
      ∀ count, report.Selects ranked count :=
  ⟨report.rankedEntries, report.ranks_rankedEntries, fun _ => report.ranks_rankedEntries.unique,
    report.ranks_rankedEntries.selects⟩

end Report

end BandedPalette
