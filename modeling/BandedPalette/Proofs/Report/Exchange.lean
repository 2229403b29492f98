import BandedPalette.Proofs.Report.Bands
namespace BandedPalette

theorem toInt_neg_of_ne {value : Int16} (proper : value ≠ Int16.minValue) :
    (-value).toInt = -value.toInt := by
  have low := value.le_toInt
  have high := value.toInt_lt
  have above : value.toInt ≠ -2 ^ 15 := fun least =>
    proper (Int16.toInt_inj.mp (least.trans Int16.toInt_minValue.symm))
  rw [Int16.toInt_neg]
  exact Int.bmod_eq_of_le (by omega) (by omega)

theorem neg_ne_minValue {value : Int16} (proper : value ≠ Int16.minValue) :
    -value ≠ Int16.minValue := by
  intro least
  apply proper
  rw [← Int16.neg_neg (a := value), least]
  rfl

/-- The least word is its own opposite, and has the same size. -/
theorem errorSize_neg (value : Int16) : errorSize (-value) = errorSize value := by
  by_cases least : value = Int16.minValue
  · rw [least]
    rfl
  · rw [errorSize, toInt_neg_of_ne least, Int.natAbs_neg, errorSize]

theorem neg_le_neg_of_ne {left right : Int16} (leftProper : left ≠ Int16.minValue)
    (rightProper : right ≠ Int16.minValue) (ordered : left ≤ right) : -right ≤ -left := by
  rw [Int16.le_iff_toInt_le] at ordered ⊢
  rw [toInt_neg_of_ne leftProper, toInt_neg_of_ne rightProper]
  omega

namespace Summary

def Proper (values : List Int16) : Prop :=
  ∀ value ∈ values, value ≠ Int16.minValue

section Opposites

variable {values : List Int16}

theorem Proper.neg (proper : Proper values) : Proper (values.map (-·)) := by
  intro value member
  obtain ⟨opposite, within, same⟩ := List.mem_map.mp member
  rw [← same]
  exact neg_ne_minValue (proper opposite within)

theorem Proper.maxError_neg (proper : Proper values) :
    (ofValues (values.map (-·))).maxError = -(ofValues values).minError := by
  by_cases nil : values = []
  · rw [nil]
    rfl
  · have least := minError_ofValues_mem nil
    have filled : values.map (-·) ≠ [] := by simpa using nil
    have greatest := maxError_ofValues_mem filled
    obtain ⟨value, member, same⟩ := List.mem_map.mp greatest
    apply Int16.le_antisymm
    · rw [← same]
      exact neg_le_neg_of_ne (proper _ least) (proper value member) (minError_ofValues_le member)
    · exact le_maxError_ofValues (List.mem_map_of_mem least)

theorem Proper.minError_neg (proper : Proper values) :
    (ofValues (values.map (-·))).minError = -(ofValues values).maxError := by
  have twice : (values.map (-·)).map (-·) = values := by
    rw [List.map_map]
    exact (List.map_congr_left fun _ _ => Int16.neg_neg).trans (List.map_id values)
  have turned := proper.neg.maxError_neg
  rw [twice] at turned
  rw [turned, Int16.neg_neg]

theorem Proper.extremes (proper : Proper values) :
    (ofValues values).maxError ≠ Int16.minValue ∧ (ofValues values).minError ≠ Int16.minValue := by
  by_cases nil : values = []
  · rw [nil]
    exact ⟨by decide, by decide⟩
  · exact ⟨proper _ (maxError_ofValues_mem nil), proper _ (minError_ofValues_mem nil)⟩

/-- Two summaries of opposite errors. -/
structure Opposes (left right : Summary) : Prop where
  maxError : right.maxError.toInt = -left.minError.toInt
  minError : right.minError.toInt = -left.maxError.toInt
  absoluteSum : right.absoluteSum = left.absoluteSum
  meanSize : right.meanSize = left.meanSize
  nonZero : right.nonZero = left.nonZero
  total : right.total = left.total
  percentCorrect : right.percentCorrect = left.percentCorrect

theorem Proper.opposes (proper : Proper values) :
    (ofValues values).Opposes (ofValues (values.map (-·))) := by
  have absoluteSum : (ofValues (values.map (-·))).absoluteSum = (ofValues values).absoluteSum := by
    rw [absoluteSum_ofValues, absoluteSum_ofValues, List.map_map]
    congr 2
    exact List.map_congr_left fun value _ => errorSize_neg value
  have nonZero : (ofValues (values.map (-·))).nonZero = (ofValues values).nonZero := by
    rw [nonZero_ofValues, nonZero_ofValues, List.countP_map]
    congr 2
    funext value
    exact decide_eq_decide.mpr Int16.neg_ne_zero
  have total : (ofValues (values.map (-·))).total = (ofValues values).total := by
    rw [total_ofValues, total_ofValues, List.length_map]
  constructor
  case maxError => rw [proper.maxError_neg, toInt_neg_of_ne proper.extremes.2]
  case minError => rw [proper.minError_neg, toInt_neg_of_ne proper.extremes.1]
  case absoluteSum => exact absoluteSum
  case meanSize => rw [meanSize, meanSize, absoluteSum, total]
  case nonZero => exact nonZero
  case total => exact total
  case percentCorrect => rw [percentCorrect, percentCorrect, nonZero, total]

end Opposites

end Summary

def Difference.opposite (difference : Difference) : Difference :=
  ⟨-difference.red, -difference.green, -difference.blue⟩

theorem Difference.opposite_ofColors (computed reference : Rgb) :
    (ofColors computed reference).opposite = ofColors reference computed := by
  simp only [opposite, ofColors, Int16.neg_sub]

theorem Difference.channel_opposite (difference : Difference) (which : Channel) :
    difference.opposite.channel which = -difference.channel which := by
  cases which <;> rfl

theorem Difference.toList_opposite (difference : Difference) :
    difference.opposite.toList = difference.toList.map (-·) := rfl

namespace Entry

def exchange (entry : Entry) : Entry :=
  ⟨entry.index, entry.reference, entry.computed, entry.error.opposite⟩

theorem exchange_compare (index : Index) (computed reference : Rgb) :
    (compare index computed reference).exchange = compare index reference computed := by
  simp only [exchange, compare, Difference.opposite_ofColors]

theorem maxSize_exchange (entry : Entry) : entry.exchange.maxSize = entry.maxSize := by
  simp only [maxSize, exchange, Difference.opposite, errorSize_neg]

theorem isExact_exchange (entry : Entry) : entry.exchange.isExact = entry.isExact := by
  have opposite (value : Int16) : -value = 0 ↔ value = 0 :=
    Decidable.not_iff_not.mp Int16.neg_ne_zero
  rw [Bool.eq_iff_iff, isExact_iff, isExact_iff, exchange, Difference.toList_opposite,
    List.forall_mem_map]
  simp only [opposite]

theorem precedes_exchange (left right : Entry) :
    left.exchange.precedes right.exchange = left.precedes right := by
  simp only [precedes, maxSize_exchange]
  rfl

end Entry

namespace Report

def exchange (report : Report) : Report :=
  ⟨report.entries.map Entry.exchange⟩

section Exchange

variable (report : Report)

theorem values_exchange (entries : List Entry) :
    Summary.values (entries.map Entry.exchange) = (Summary.values entries).map (-·) := by
  simp only [Summary.values, List.flatMap_map, List.map_flatMap]
  rfl

theorem bandEntries_exchange (band : Band) :
    report.exchange.bandEntries band = (report.bandEntries band).map Entry.exchange := by
  rw [bandEntries, bandEntries, exchange, ← List.map_drop, ← List.map_take]

theorem ranking_exchange : report.exchange.ranking = report.ranking.map Entry.exchange := by
  have kept : (fun entry : Entry => !entry.isExact) ∘ Entry.exchange =
      fun entry => !entry.isExact := by
    funext entry
    rw [Function.comp_apply, Entry.isExact_exchange]
  rw [ranking, ranking, exchange, List.filter_map, kept]
  exact (List.map_mergeSort fun left _ right _ => (left.precedes_exchange right).symm).symm

theorem worst_exchange (count : Nat) :
    report.exchange.worst count = (report.worst count).map Entry.exchange := by
  rw [worst, worst, ranking_exchange, List.map_take]

end Exchange

/-- Two reports of opposite errors, place by place and in every summary, that
rank the same places with the same sizes. -/
structure Opposes (left right : Report) : Prop where
  entries : ∀ index : Index, ∃ first second, left.entries[index.number]? = some first ∧
    right.entries[index.number]? = some second ∧ first.index = index ∧ second.index = index ∧
    ∀ which, (second.error.channel which).toInt = -(first.error.channel which).toInt
  summary : left.summary.Opposes right.summary
  bands : ∀ band : Band, ∃ part opposite, left.bands[band.val]? = some (band, part) ∧
    right.bands[band.val]? = some (band, opposite) ∧ part.Opposes opposite
  worst : ∀ count, (right.worst count).map (fun entry => (entry.index, entry.maxSize)) =
    (left.worst count).map fun entry => (entry.index, entry.maxSize)

theorem exchange_entriesOf (encoder wanted : Encoder) :
    exchange ⟨entriesOf encoder wanted⟩ = ⟨entriesOf wanted encoder⟩ := by
  rw [exchange, entriesOf, entriesOf, List.map_map]
  congr 2
  funext index
  exact Entry.exchange_compare index (encoder index) (wanted index)

/-- Differences of levels stay far from the end of their words. -/
theorem proper_ofColors (computed reference : Rgb) :
    Summary.Proper (Difference.ofColors computed reference).toList := by
  intro error member least
  rw [Difference.toList_eq_map] at member
  obtain ⟨which, _, same⟩ := List.mem_map.mp member
  have exact := Difference.toInt_channel_ofColors computed reference which
  have bound := (reference.channel which).toNat_lt
  rw [same, least, Int16.toInt_minValue] at exact
  omega

theorem proper_entriesAt (places : List Index) (encoder wanted : Encoder) :
    Summary.Proper (Summary.values (entriesAt places encoder wanted)) := by
  intro error member
  obtain ⟨entry, listed, within⟩ := List.mem_flatMap.mp member
  obtain ⟨index, _, same⟩ := List.mem_map.mp listed
  rw [← same] at within
  exact proper_ofColors (encoder index) (wanted index) error within

theorem opposes_entriesOf (encoder wanted : Encoder) :
    Opposes ⟨entriesOf encoder wanted⟩ ⟨entriesOf wanted encoder⟩ := by
  rw [← exchange_entriesOf encoder wanted]
  constructor
  case entries =>
    intro index
    have found := getElem?_entriesOf encoder wanted index
    let entry := Entry.compare index (encoder index) (wanted index)
    refine ⟨entry, entry.exchange, found, ?_, rfl, rfl, ?_⟩
    · rw [exchange, List.getElem?_map, found]
      rfl
    · intro which
      have member : entry.error.channel which ∈ entry.error.toList :=
        List.mem_map_of_mem which.mem_all
      rw [Entry.exchange, Difference.channel_opposite]
      exact toInt_neg_of_ne (proper_ofColors (encoder index) (wanted index) _ member)
  case summary =>
    rw [summary, summary, exchange, Summary.ofEntries, Summary.ofEntries, values_exchange,
      entriesOf_eq_entriesAt]
    exact (proper_entriesAt Index.all encoder wanted).opposes
  case bands =>
    intro band
    refine ⟨_, _, getElem?_bands _ band, getElem?_bands _ band, ?_⟩
    rw [bandEntries_exchange, Summary.ofEntries, Summary.ofEntries, values_exchange,
      bandEntries_eq_entriesAt]
    exact (proper_entriesAt _ encoder wanted).opposes
  case worst =>
    intro count
    rw [worst_exchange, List.map_map]
    apply List.map_congr_left
    intro entry _
    rw [Function.comp_apply, entry.maxSize_exchange]
    rfl

/-- Two palettes compared in one order and in the other: all errors are turned,
and everything that looks at sizes stays. -/
theorem exchanged_comparison_opposes {left right : List Rgb} (countLeft : left.length = 133)
    (countRight : right.length = 133) :
    ∃ report exchanged,
      compare left (Encoder.ofPalette right countRight) = .ok report ∧
        compare right (Encoder.ofPalette left countLeft) = .ok exchanged ∧
        report.Opposes exchanged := by
  have first := compare_palette (Encoder.ofPalette right countRight)
    (Encoder.ofPalette left countLeft)
  have second := compare_palette (Encoder.ofPalette left countLeft)
    (Encoder.ofPalette right countRight)
  rw [Encoder.palette_ofPalette] at first second
  exact ⟨_, _, first, second, opposes_entriesOf _ _⟩

theorem exchanged_comparison_opposes_table :
    ∃ report exchanged,
      compare Reference.table
          (Encoder.ofPalette Formula.standard.palette (Encoder.length_palette _)) = .ok report ∧
        compare Formula.standard.palette
          (Encoder.ofPalette Reference.table Reference.length_table) = .ok exchanged ∧
        report.Opposes exchanged :=
  exchanged_comparison_opposes Reference.length_table (Encoder.length_palette _)

end Report

end BandedPalette
