import Mathlib.Algebra.BigOperators.Group.List.Basic
import BandedPalette.Proofs.Report.Locality
namespace BandedPalette

namespace Summary

structure Additive (measure : List Int16 → Nat) : Prop where
  nil : measure [] = 0
  append : ∀ front back, measure (front ++ back) = measure front + measure back

theorem additive_errorSize : Additive fun values => (values.map errorSize).sum where
  nil := rfl
  append := by simp

theorem additive_nonZero : Additive fun values => values.countP (· ≠ 0) where
  nil := rfl
  append := by simp

theorem Additive.values {measure : List Int16 → Nat} (adds : Additive measure)
    (entries : List Entry) :
    measure (Summary.values entries) =
      (entries.map fun entry => measure entry.error.toList).sum := by
  induction entries with
  | nil => exact adds.nil
  | cons entry rest ih =>
      rw [Summary.values, List.flatMap_cons, adds.append, ← Summary.values, ih, List.map_cons,
        List.sum_cons]

end Summary

namespace Index

theorem eq_of_number {left right : Index} (same : left.number = right.number) : left = right := by
  cases left
  cases right
  exact congrArg Index.mk (Fin.ext same)

theorem nodup_all : all.Nodup :=
  List.Pairwise.map Index.mk (fun _ _ apart same => apart (congrArg Index.position same))
    (List.nodup_finRange 133)

theorem mem_all (index : Index) : index ∈ all :=
  List.mem_of_getElem? (getElem?_all index)

end Index

namespace Report

section Edit

variable (encoder : Encoder) {wanted other : Encoder} {index : Index} {places : List Index}

/-- What a measure of the whole loses and gains is what the edited entry loses
and gains. -/
theorem measure_edit {measure : List Int16 → Nat} (adds : Summary.Additive measure)
    (distinct : places.Nodup) (member : index ∈ places)
    (same : ∀ place, place ≠ index → wanted place = other place) :
    measure (Summary.values (entriesAt places encoder other)) +
        measure (Difference.ofColors (encoder index) (wanted index)).toList =
      measure (Summary.values (entriesAt places encoder wanted)) +
        measure (Difference.ofColors (encoder index) (other index)).toList := by
  have total (reference : Encoder) :
      measure (Summary.values (entriesAt places encoder reference)) =
        (places.map fun place =>
          measure (Difference.ofColors (encoder place) (reference place)).toList).sum := by
    rw [adds.values, entriesAt, List.map_map]
    rfl
  have rest : (places.erase index).map (fun place =>
        measure (Difference.ofColors (encoder place) (other place)).toList) =
      (places.erase index).map fun place =>
        measure (Difference.ofColors (encoder place) (wanted place)).toList := by
    apply List.map_congr_left
    intro place within
    have apart : place ≠ index := fun found => distinct.not_mem_erase (found ▸ within)
    rw [same place apart]
  rw [total, total, ← List.sum_map_erase _ member, ← List.sum_map_erase _ member, rest]
  omega

theorem counted_entriesAt (part : places.Sublist Index.all) (wanted : Encoder) :
    Summary.Counted (Summary.values (entriesAt places encoder wanted))
      (Summary.ofEntries (entriesAt places encoder wanted)) := by
  have few := part.length_le
  apply Summary.counted_ofValues
  rw [length_values, entriesAt, List.length_map]
  rw [Index.length_all] at few
  omega

theorem countP_nonZero_ofColors (computed reference : Rgb) :
    (Difference.ofColors computed reference).toList.countP (· ≠ 0) =
      Channel.all.countP fun which => computed.channel which ≠ reference.channel which := by
  rw [Difference.toList_eq_map, List.countP_map]
  congr 1
  funext which
  simp [Difference.channel_ofColors_eq_zero_iff]

theorem sum_errorSize_ofColors (computed reference : Rgb) :
    ((Difference.ofColors computed reference).toList.map errorSize).sum =
      (Channel.all.map fun which =>
        ((computed.channel which).toNat - (reference.channel which).toNat : Int).natAbs).sum := by
  rw [Difference.toList_eq_map, List.map_map]
  congr 2
  funext which
  rw [Function.comp_apply, errorSize, Difference.toInt_channel_ofColors]

theorem nonZero_edit_le (part : places.Sublist Index.all) (member : index ∈ places)
    (same : ∀ place, place ≠ index → wanted place = other place) :
    (Summary.ofEntries (entriesAt places encoder other)).nonZero.toNat ≤
      (Summary.ofEntries (entriesAt places encoder wanted)).nonZero.toNat + 3 := by
  have moved := measure_edit encoder Summary.additive_nonZero
    (Index.nodup_all.sublist part) member same
  have gained := List.countP_le_length (p := (· ≠ 0))
    (l := (Difference.ofColors (encoder index) (other index)).toList)
  have three : (Difference.ofColors (encoder index) (other index)).toList.length = 3 := rfl
  rw [(counted_entriesAt encoder part other).nonZero,
    (counted_entriesAt encoder part wanted).nonZero]
  omega

/-- What a summary loses when a wrong colour of the reference is set right. -/
structure Corrects (wrong right : Rgb) (before after : Summary) : Prop where
  absoluteSum : after.absoluteSum.toNat + (Channel.all.map fun which =>
    ((right.channel which).toNat - (wrong.channel which).toNat : Int).natAbs).sum =
      before.absoluteSum.toNat
  nonZero : after.nonZero.toNat +
    Channel.all.countP (fun which => right.channel which ≠ wrong.channel which) =
      before.nonZero.toNat
  total : after.total = before.total

theorem corrects_edit (part : places.Sublist Index.all) (member : index ∈ places)
    (same : ∀ place, place ≠ index → wanted place = other place)
    (exact : other index = encoder index) :
    Corrects (wanted index) (encoder index)
      (Summary.ofEntries (entriesAt places encoder wanted))
      (Summary.ofEntries (entriesAt places encoder other)) := by
  have before := counted_entriesAt encoder part wanted
  have after := counted_entriesAt encoder part other
  have distinct := Index.nodup_all.sublist part
  have zero : Difference.ofColors (encoder index) (other index) = Difference.zero :=
    Difference.ofColors_eq_zero_iff.mpr exact.symm
  constructor
  case absoluteSum =>
    have moved := measure_edit encoder Summary.additive_errorSize distinct member same
    rw [zero] at moved
    rw [before.absoluteSum, after.absoluteSum, ← sum_errorSize_ofColors]
    exact moved
  case nonZero =>
    have moved := measure_edit encoder Summary.additive_nonZero distinct member same
    rw [zero] at moved
    rw [before.nonZero, after.nonZero, ← countP_nonZero_ofColors]
    exact moved
  case total =>
    rw [← UInt64.toNat_inj, before.total, after.total, length_values, length_values, entriesAt,
      entriesAt, List.length_map, List.length_map]

end Edit

/-- References that differ at one place only lead to reports that say the same
of every other place and of every other band, and the counts of errors are at
most the three of that place apart.  If the edit sets the colour right there, the
report and the band of the place lose just the errors of that place. -/
theorem reference_edits_local (encoder : Encoder) {reference edited : List Rgb} (index : Index)
    (count : reference.length = 133) (countEdited : edited.length = 133)
    (same : ∀ position, position ≠ index.number → reference[position]? = edited[position]?) :
    ∃ before after, compare reference encoder = .ok before ∧
      compare edited encoder = .ok after ∧
      (∀ place, place ≠ index → AgreeAt before after place) ∧
      (∀ band, band ≠ index.band → AgreeOn before after band) ∧
      after.summary.nonZero.toNat ≤ before.summary.nonZero.toNat + 3 ∧
      before.summary.nonZero.toNat ≤ after.summary.nonZero.toNat + 3 ∧
      (edited[index.number]? = some (encoder index) →
        ∃ wrong part partAfter, reference[index.number]? = some wrong ∧
          before.bands[index.band.val]? = some (index.band, part) ∧
          after.bands[index.band.val]? = some (index.band, partAfter) ∧
          Corrects wrong (encoder index) before.summary after.summary ∧
          Corrects wrong (encoder index) part partAfter) := by
  obtain ⟨wanted, rfl⟩ := Encoder.exists_palette_eq count
  obtain ⟨other, rfl⟩ := Encoder.exists_palette_eq countEdited
  have alike : ∀ place, place ≠ index → wanted place = other place := by
    intro place apart
    have there := same place.number fun found => apart (Index.eq_of_number found)
    rw [wanted.getElem?_palette, other.getElem?_palette] at there
    exact Option.some.inj there
  have whole : Index.all.Sublist Index.all := List.Sublist.refl _
  have within : (Index.all.filter fun place => place.band = index.band).Sublist Index.all :=
    List.filter_sublist
  refine ⟨_, _, compare_palette encoder wanted, compare_palette encoder other, ?places, ?bands,
    nonZero_edit_le encoder whole index.mem_all alike,
    nonZero_edit_le encoder whole index.mem_all fun place apart => (alike place apart).symm,
    ?corrected⟩
  case places =>
    intro place apart
    exact agreeAt_entriesOf rfl (alike place apart)
  case bands =>
    intro band apart
    apply agreeOn_entriesOf
    · intro place _
      rfl
    · intro place inside
      apply alike
      intro found
      exact apart (inside.symm.trans (congrArg Index.band found))
  case corrected =>
    intro corrected
    have exact : other index = encoder index :=
      Option.some.inj ((other.getElem?_palette index).symm.trans corrected)
    refine ⟨wanted index, _, _, wanted.getElem?_palette index,
      getElem?_bands_entriesOf encoder wanted index.band,
      getElem?_bands_entriesOf encoder other index.band, ?_, ?_⟩
    · exact corrects_edit encoder whole index.mem_all alike exact
    · exact corrects_edit encoder within (by simp [Index.mem_all]) alike exact

def disputed : Index :=
  ⟨40⟩

def settledTable : List Rgb :=
  Reference.table.set disputed.number (Formula.standard.encode disputed)

theorem reference_edits_local_table :
    settledTable.length = 133 ∧
      settledTable[disputed.number]? = some (Formula.standard.encode disputed) ∧
      ∃ before after wrong, compare Reference.table Formula.standard.encode = .ok before ∧
        compare settledTable Formula.standard.encode = .ok after ∧
        AgreeAt before after ⟨41⟩ ∧ AgreeOn before after 3 ∧
        Reference.table[disputed.number]? = some wrong ∧
        Corrects wrong (Formula.standard.encode disputed) before.summary after.summary := by
  have inside : disputed.number < Reference.table.length := by
    rw [Reference.length_table]
    exact disputed.number_lt
  have count : settledTable.length = 133 := by
    rw [settledTable, List.length_set, Reference.length_table]
  have corrected : settledTable[disputed.number]? = some (Formula.standard.encode disputed) :=
    List.getElem?_set_self inside
  obtain ⟨before, after, first, second, places, bands, _, _, corrects⟩ :=
    reference_edits_local Formula.standard.encode disputed Reference.length_table count
      fun position apart => (List.getElem?_set_ne apart.symm).symm
  obtain ⟨wrong, _, _, found, _, _, whole, _⟩ := corrects corrected
  exact ⟨count, corrected, before, after, wrong, first, second, places ⟨41⟩ (by decide),
    bands 3 (by decide), found, whole⟩

end Report

end BandedPalette
