import BandedPalette.Proofs.Report.Exactness
namespace BandedPalette

/-! The bands of a report are parts of one whole.

A band is cut out of a report by position.  The cuts meet without a gap, so
counts and sums over the bands are those over all entries that they reach, and
in a comparison the entry of a place stands at its number, so that a cut holds
just the places of its band.
-/

/-- Cuts of one width, taken one after another, make up a front of the list. -/
theorem flatMap_cuts (width count : Nat) (items : List α) :
    ((List.range count).flatMap fun number => (items.drop (width * number)).take width) =
      items.take (width * count) := by
  induction count with
  | zero => simp
  | succ count ih =>
      rw [List.range_succ, List.flatMap_append, ih, Nat.mul_succ, List.take_add]
      simp

theorem flatMap_finRange (count : Nat) (cut : Nat → List α) :
    ((List.finRange count).flatMap fun number => cut number.val) =
      (List.range count).flatMap cut := by
  have numbers : (List.finRange count).map Fin.val = List.range count := by
    apply List.ext_getElem <;> simp
  rw [← numbers, List.flatMap_map]

theorem cut_eq_filterMap (start width : Nat) (items : List α) :
    (items.drop start).take width =
      (List.range width).filterMap fun offset => items[start + offset]? := by
  induction width with
  | zero => simp
  | succ width ih =>
      rw [List.take_add_one, ih, List.range_succ, List.filterMap_append, List.getElem?_drop]
      cases found : items[start + width]? <;> simp [found]

namespace Index

theorem number_getElem_all {position : Nat} (bound : position < all.length) :
    all[position].number = position := by
  simp [all, number]

theorem number_of_mem_take {index : Index} {count : Nat} (member : index ∈ all.take count) :
    index.number < count := by
  obtain ⟨position, bound, rfl⟩ := List.mem_take_iff_getElem.mp member
  rw [number_getElem_all]
  omega

theorem number_of_mem_drop {index : Index} {count : Nat} (member : index ∈ all.drop count) :
    count ≤ index.number := by
  obtain ⟨position, bound, rfl⟩ := List.mem_drop_iff_getElem.mp member
  rw [number_getElem_all]
  omega

theorem cut_all (band : Band) :
    (all.drop (19 * band.val)).take 19 = all.filter fun index => index.band = band := by
  have split : all = all.take (19 * band.val) ++
      ((all.drop (19 * band.val)).take 19 ++ all.drop (19 * band.val + 19)) := by
    rw [← List.drop_drop, List.take_append_drop, List.take_append_drop]
  have before : (all.take (19 * band.val)).filter (fun index => index.band = band) = [] := by
    rw [List.filter_eq_nil_iff]
    intro index member same
    have low := number_of_mem_take member
    have high := congrArg Fin.val (of_decide_eq_true same)
    simp only [Index.band] at high
    omega
  have within : ((all.drop (19 * band.val)).take 19).filter (fun index => index.band = band) =
      (all.drop (19 * band.val)).take 19 := by
    rw [List.filter_eq_self]
    intro index member
    have low := number_of_mem_drop (List.mem_of_mem_take member)
    rw [List.take_drop] at member
    have high := number_of_mem_take (List.mem_of_mem_drop member)
    simp only [Index.band, decide_eq_true_eq, Fin.ext_iff]
    omega
  have after : (all.drop (19 * band.val + 19)).filter (fun index => index.band = band) = [] := by
    rw [List.filter_eq_nil_iff]
    intro index member same
    have low := number_of_mem_drop member
    have high := congrArg Fin.val (of_decide_eq_true same)
    simp only [Index.band] at high
    omega
  conv => rhs; rw [split]
  rw [List.filter_append, List.filter_append, before, within, after, List.nil_append,
    List.append_nil]

end Index

namespace Summary

theorem absoluteSum_ofValues (values : List Int16) :
    (ofValues values).absoluteSum = UInt64.ofNat (values.map errorSize).sum := by
  cases values with
  | nil => rfl
  | cons value rest => exact (tallies_ofValues (List.cons_ne_nil value rest)).absoluteSum

theorem errorSize_le (value : Int16) : errorSize value ≤ 2 ^ 15 := by
  have low := value.le_toInt
  have high := value.toInt_lt
  simp only [errorSize]
  omega

theorem sum_errorSize_le (values : List Int16) :
    (values.map errorSize).sum ≤ 2 ^ 15 * values.length := by
  induction values with
  | nil => simp
  | cons value rest ih =>
      have size := errorSize_le value
      simp only [List.map_cons, List.sum_cons, List.length_cons]
      omega

structure Counted (values : List Int16) (summary : Summary) : Prop where
  absoluteSum : summary.absoluteSum.toNat = (values.map errorSize).sum
  nonZero : summary.nonZero.toNat = values.countP (· ≠ 0)
  total : summary.total.toNat = values.length

theorem counted_ofValues {values : List Int16} (few : values.length < 2 ^ 49) :
    Counted values (ofValues values) where
  absoluteSum := by
    have bound := sum_errorSize_le values
    rw [absoluteSum_ofValues, UInt64.toNat_ofNat_of_lt' (by simp only [UInt64.size]; omega)]
  nonZero := by
    have bound := List.countP_le_length (p := (· ≠ 0)) (l := values)
    rw [nonZero_ofValues, UInt64.toNat_ofNat_of_lt' (by simp only [UInt64.size]; omega)]
  total := by
    rw [total_ofValues, UInt64.toNat_ofNat_of_lt' (by simp only [UInt64.size]; omega)]

theorem le_maxError_ofValues {values : List Int16} {value : Int16} (member : value ∈ values) :
    value ≤ (ofValues values).maxError :=
  (tallies_ofValues (List.ne_nil_of_mem member)).le_maxError value member

theorem minError_ofValues_le {values : List Int16} {value : Int16} (member : value ∈ values) :
    (ofValues values).minError ≤ value :=
  (tallies_ofValues (List.ne_nil_of_mem member)).minError_le value member

/-- Summaries of parts, and the summary of the whole that they make up.  A part
without values has no extremes. -/
structure Gathers (parts : List Summary) (whole : Summary) : Prop where
  absoluteSum : (parts.map fun part => part.absoluteSum.toNat).sum = whole.absoluteSum.toNat
  nonZero : (parts.map fun part => part.nonZero.toNat).sum = whole.nonZero.toNat
  total : (parts.map fun part => part.total.toNat).sum = whole.total.toNat
  maxError : ((parts.filter fun part => part.total ≠ 0).map maxError).max? =
    if whole.total = 0 then none else some whole.maxError
  minError : ((parts.filter fun part => part.total ≠ 0).map minError).min? =
    if whole.total = 0 then none else some whole.minError

section Parts

variable {parts : List (List Int16)}

theorem total_ofValues_eq_zero_iff {values : List Int16} (few : values.length < 2 ^ 49) :
    (ofValues values).total = 0 ↔ values = [] := by
  rw [← UInt64.toNat_inj, (counted_ofValues few).total]
  exact List.length_eq_zero_iff

theorem length_le_flatten {part : List Int16} (member : part ∈ parts) :
    part.length ≤ parts.flatten.length :=
  (List.sublist_flatten_of_mem member).length_le

theorem sum_ofValues (word : Summary → UInt64) {count : List Int16 → Nat}
    (counts : ∀ values, values.length < 2 ^ 49 → (word (ofValues values)).toNat = count values)
    (adds : (parts.map count).sum = count parts.flatten)
    (few : parts.flatten.length < 2 ^ 49) :
    ((parts.map ofValues).map fun part => (word part).toNat).sum =
      (word (ofValues parts.flatten)).toNat := by
  have each : (parts.map ofValues).map (fun part => (word part).toNat) = parts.map count := by
    rw [List.map_map]
    apply List.map_congr_left
    intro part member
    exact counts part (Nat.lt_of_le_of_lt (length_le_flatten member) few)
  rw [each, adds, counts parts.flatten few]

theorem sum_errorSize_flatten :
    (parts.map fun part => (part.map errorSize).sum).sum =
      (parts.flatten.map errorSize).sum := by
  induction parts with
  | nil => rfl
  | cons part rest ih => simp [ih]

theorem filter_total_ofValues (few : parts.flatten.length < 2 ^ 49) :
    (parts.map ofValues).filter (fun part => part.total ≠ 0) =
      (parts.filter (· ≠ [])).map ofValues := by
  rw [List.filter_map]
  congr 1
  apply List.filter_congr
  intro part member
  have zero := total_ofValues_eq_zero_iff (Nat.lt_of_le_of_lt (length_le_flatten member) few)
  simp [zero]

theorem filter_ne_nil_of_flatten (empty : parts.flatten = []) : parts.filter (· ≠ []) = [] := by
  rw [List.filter_eq_nil_iff]
  intro part member filled
  exact of_decide_eq_true filled (List.flatten_eq_nil_iff.mp empty part member)

/-- An extreme of the whole is the extreme of some part, and bounds all others. -/
theorem extreme_flatten {bounded : Int16 → Int16 → Prop} {extreme : List Int16 → Int16}
    (antisymm : ∀ {left right}, bounded left right → bounded right left → left = right)
    (reached : ∀ {values}, values ≠ [] → extreme values ∈ values)
    (bounds : ∀ {values value}, value ∈ values → bounded value (extreme values))
    (nonempty : parts.flatten ≠ []) :
    extreme parts.flatten ∈ (parts.filter (· ≠ [])).map extreme ∧
      ∀ value ∈ (parts.filter (· ≠ [])).map extreme, bounded value (extreme parts.flatten) := by
  have below : ∀ part ∈ parts, part ≠ [] → bounded (extreme part) (extreme parts.flatten) :=
    fun part member filled => bounds (List.mem_flatten_of_mem member (reached filled))
  constructor
  · obtain ⟨part, member, inside⟩ := List.mem_flatten.mp (reached nonempty)
    have filled := List.ne_nil_of_mem inside
    have same := antisymm (below part member filled) (bounds inside)
    exact List.mem_map.mpr ⟨part, by simp [member, filled], same⟩
  · intro value member
    obtain ⟨part, kept, rfl⟩ := List.mem_map.mp member
    obtain ⟨listed, filled⟩ := List.mem_filter.mp kept
    exact below part listed (of_decide_eq_true filled)

/-- The extreme of the whole is chosen among those of the parts that have one. -/
theorem extreme_ofValues {bounded : Int16 → Int16 → Prop} {choose : List Int16 → Option Int16}
    {word : Summary → Int16} (empty : choose [] = none)
    (chosen : ∀ {values value}, choose values = some value ↔
      value ∈ values ∧ ∀ other ∈ values, bounded other value)
    (antisymm : ∀ {left right}, bounded left right → bounded right left → left = right)
    (reached : ∀ {values}, values ≠ [] → word (ofValues values) ∈ values)
    (bounds : ∀ {values value}, value ∈ values → bounded value (word (ofValues values)))
    (few : parts.flatten.length < 2 ^ 49) :
    choose (((parts.map ofValues).filter fun part => part.total ≠ 0).map word) =
      if (ofValues parts.flatten).total = 0 then none
      else some (word (ofValues parts.flatten)) := by
  rw [filter_total_ofValues few, List.map_map]
  split
  case isTrue none =>
    have nothing := (total_ofValues_eq_zero_iff few).mp none
    rw [filter_ne_nil_of_flatten nothing]
    exact empty
  case isFalse some =>
    have nonempty := mt (total_ofValues_eq_zero_iff few).mpr some
    exact chosen.mpr (extreme_flatten antisymm reached bounds nonempty)

theorem gathers_ofValues (few : parts.flatten.length < 2 ^ 49) :
    Gathers (parts.map ofValues) (ofValues parts.flatten) where
  absoluteSum := sum_ofValues absoluteSum
    (fun _ few => (counted_ofValues few).absoluteSum) sum_errorSize_flatten few
  nonZero := sum_ofValues nonZero
    (fun _ few => (counted_ofValues few).nonZero) List.countP_flatten.symm few
  total := sum_ofValues total
    (fun _ few => (counted_ofValues few).total) List.length_flatten.symm few
  maxError := extreme_ofValues rfl List.max?_eq_some_iff Int16.le_antisymm
    maxError_ofValues_mem le_maxError_ofValues few
  minError := extreme_ofValues rfl List.min?_eq_some_iff
    (fun high low => Int16.le_antisymm low high) minError_ofValues_mem minError_ofValues_le few

end Parts

end Summary

namespace Report

theorem length_values (entries : List Entry) :
    (Summary.values entries).length = 3 * entries.length := by
  induction entries with
  | nil => rfl
  | cons entry rest ih =>
      rw [Summary.values, List.flatMap_cons, List.length_append, ← Summary.values, ih,
        List.length_cons, Difference.toList]
      simp only [List.length_cons, List.length_nil]
      omega

theorem values_ne_nil {entries : List Entry} (filled : entries ≠ []) :
    Summary.values entries ≠ [] := by
  intro empty
  have none := length_values entries
  rw [empty, List.length_nil] at none
  exact filled (List.length_eq_zero_iff.mp (by omega))

theorem flatMap_bandEntries (report : Report) :
    (List.finRange 7).flatMap report.bandEntries = report.entries.take 133 := by
  have cuts := flatMap_finRange 7 fun number => (report.entries.drop (19 * number)).take 19
  rw [flatMap_cuts] at cuts
  exact cuts

theorem gathers_bands (report : Report) :
    Summary.Gathers (report.bands.map Prod.snd) (Summary.ofEntries (report.entries.take 133)) := by
  let parts := (List.finRange 7).map fun band => Summary.values (report.bandEntries band)
  have bands : report.bands.map Prod.snd = parts.map Summary.ofValues := by
    simp [bands, parts, Summary.ofEntries]
  have whole : parts.flatten = Summary.values (report.entries.take 133) := by
    rw [← flatMap_bandEntries, Summary.values, List.flatMap_assoc, List.flatMap_def]
    rfl
  have few : parts.flatten.length < 2 ^ 49 := by
    have taken := List.length_take_le 133 report.entries
    rw [whole, length_values]
    omega
  rw [bands, Summary.ofEntries, ← whole]
  exact Summary.gathers_ofValues few

theorem getElem?_bands (report : Report) (band : Band) :
    report.bands[band.val]? = some (band, Summary.ofEntries (report.bandEntries band)) := by
  simp [bands]

theorem bandEntries_eq_entriesAt (encoder wanted : Encoder) (band : Band) :
    bandEntries ⟨entriesOf encoder wanted⟩ band =
      entriesAt (Index.all.filter fun index => index.band = band) encoder wanted := by
  rw [bandEntries, entriesOf, ← List.map_drop, ← List.map_take, Index.cut_all, entriesAt]

theorem getElem?_bands_entriesOf (encoder wanted : Encoder) (band : Band) :
    (bands ⟨entriesOf encoder wanted⟩)[band.val]? =
      some (band, Summary.ofEntries
        (entriesAt (Index.all.filter fun index => index.band = band) encoder wanted)) := by
  rw [getElem?_bands, bandEntries_eq_entriesAt]

theorem bandEntries_entriesOf (encoder wanted : Encoder) (band : Band) :
    bandEntries ⟨entriesOf encoder wanted⟩ band =
      (entriesOf encoder wanted).filter fun entry => entry.index.band = band := by
  rw [bandEntries_eq_entriesAt, entriesAt, entriesOf, List.filter_map]
  rfl

theorem length_bandEntries_entriesOf (encoder wanted : Encoder) (band : Band) :
    (bandEntries ⟨entriesOf encoder wanted⟩ band).length = 19 := by
  rw [bandEntries, List.length_take, List.length_drop, length_entriesOf]
  omega

theorem total_band_entriesOf (encoder wanted : Encoder) (band : Band) :
    (Summary.ofEntries (bandEntries ⟨entriesOf encoder wanted⟩ band)).total = 57 := by
  rw [Summary.ofEntries, Summary.total_ofValues, length_values, length_bandEntries_entriesOf]
  rfl

theorem mem_bands {report : Report} {band : Band} {part : Summary}
    (member : (band, part) ∈ report.bands) :
    part = Summary.ofEntries (report.bandEntries band) := by
  obtain ⟨_, _, same⟩ := List.mem_map.mp member
  cases same
  rfl

/-- Bands cut by position, whatever the indices of the entries are. -/
structure Cut (report : Report) : Prop where
  length : report.bands.length = 7
  band : ∀ band : Band, report.bands[band.val]? = some (band, Summary.ofEntries
    ((List.range 19).filterMap fun offset => report.entries[19 * band.val + offset]?))
  gathers :
    Summary.Gathers (report.bands.map Prod.snd) (Summary.ofEntries (report.entries.take 133))

theorem cut (report : Report) : report.Cut where
  length := by simp [bands]
  band := by
    intro band
    rw [getElem?_bands, bandEntries, cut_eq_filterMap]
  gathers := report.gathers_bands

def entriesWithin (report : Report) (band : Band) : List Entry :=
  report.entries.filter fun entry => entry.index.band = band

/-- Bands that share out all entries by their places. -/
structure Partitioned (report : Report) : Prop where
  length : report.bands.length = 7
  band : ∀ band : Band,
    report.bands[band.val]? = some (band, Summary.ofEntries (report.entriesWithin band))
  entries : ∀ band, (report.entriesWithin band).length = 19
  values : ∀ band part, (band, part) ∈ report.bands → part.total = 57
  absoluteSum : (report.bands.map fun (_, part) => part.absoluteSum.toNat).sum =
    report.summary.absoluteSum.toNat
  nonZero : (report.bands.map fun (_, part) => part.nonZero.toNat).sum =
    report.summary.nonZero.toNat
  total : (report.bands.map fun (_, part) => part.total.toNat).sum = report.summary.total.toNat
  maxError : (report.bands.map fun (_, part) => part.maxError).max? = some report.summary.maxError
  minError : (report.bands.map fun (_, part) => part.minError).min? = some report.summary.minError

theorem partitioned_entriesOf (encoder wanted : Encoder) :
    (Report.mk (entriesOf encoder wanted)).Partitioned := by
  have counted (band : Band) (part : Summary)
      (member : (band, part) ∈ bands ⟨entriesOf encoder wanted⟩) : part.total = 57 := by
    rw [mem_bands member, total_band_entriesOf]
  have gathers := gathers_bands ⟨entriesOf encoder wanted⟩
  have all : (entriesOf encoder wanted).take 133 = entriesOf encoder wanted := by
    rw [← length_entriesOf encoder wanted, List.take_length]
  have filled : ((bands ⟨entriesOf encoder wanted⟩).map Prod.snd).filter
      (fun part => part.total ≠ 0) = (bands ⟨entriesOf encoder wanted⟩).map Prod.snd := by
    rw [List.filter_eq_self]
    intro part member
    obtain ⟨⟨band, _⟩, listed, rfl⟩ := List.mem_map.mp member
    simp [counted band _ listed]
  have some : (Summary.ofEntries (entriesOf encoder wanted)).total ≠ 0 := by
    have total := total_summary_entriesOf encoder wanted
    rw [summary] at total
    rw [total]
    decide
  obtain ⟨absoluteSum, nonZero, total, maxError, minError⟩ := gathers
  rw [filled, all, if_neg some] at maxError minError
  rw [all] at absoluteSum nonZero total
  rw [List.map_map] at absoluteSum nonZero total maxError minError
  exact {
    length := by simp [bands]
    band := by
      intro band
      rw [getElem?_bands, bandEntries_entriesOf, entriesWithin]
    entries := by
      intro band
      rw [entriesWithin, ← bandEntries_entriesOf, length_bandEntries_entriesOf]
    values := counted
    absoluteSum, nonZero, total, maxError, minError }

/-- A comparison is shared out among its bands by the places of its entries.
Any report is cut by position, and its bands gather the entries that they
reach. -/
theorem bands_partition :
    (∀ (reference : List Rgb) (encoder : Encoder), reference.length = 133 →
      ∃ report, compare reference encoder = .ok report ∧ report.Partitioned) ∧
      ∀ report : Report, report.Cut := by
  refine ⟨?_, cut⟩
  intro reference encoder count
  obtain ⟨wanted, rfl⟩ := Encoder.exists_palette_eq count
  exact ⟨_, compare_palette encoder wanted, partitioned_entriesOf encoder wanted⟩

theorem bands_partition_standard :
    Reference.table.length = 133 ∧ ∃ report, standard = .ok report ∧ report.Partitioned :=
  ⟨Reference.length_table,
    bands_partition.1 Reference.table Formula.standard.encode Reference.length_table⟩

end Report

end BandedPalette
