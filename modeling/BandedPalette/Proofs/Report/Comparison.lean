import BandedPalette.Proofs.Report.Difference
import BandedPalette.Report
namespace BandedPalette

namespace Encoder

theorem getElem?_palette (encoder : Encoder) (index : Index) :
    encoder.palette[index.number]? = some (encoder index) := by
  rw [Encoder.palette, List.getElem?_map, Index.getElem?_all]
  rfl

def ofPalette (colors : List Rgb) (count : colors.length = 133) : Encoder :=
  fun index => colors.get ⟨index.number, by rw [count]; exact index.number_lt⟩

theorem palette_ofPalette {colors : List Rgb} (count : colors.length = 133) :
    (ofPalette colors count).palette = colors := by
  apply List.ext_getElem
  · rw [Encoder.length_palette, count]
  · intro position _ _
    simp [Encoder.palette, ofPalette, Index.all, Index.number]

/-- As many colours as there are places are the palette of some encoder. -/
theorem exists_palette_eq {colors : List Rgb} (count : colors.length = 133) :
    ∃ encoder : Encoder, encoder.palette = colors :=
  ⟨ofPalette colors count, palette_ofPalette count⟩

theorem palette_inj {left right : Encoder} : left.palette = right.palette ↔ left = right := by
  constructor
  · intro same
    funext index
    have there := getElem?_palette left index
    rw [same, getElem?_palette] at there
    exact (Option.some.inj there).symm
  · rintro rfl
    rfl

end Encoder

namespace Report

def entriesOf (encoder wanted : Encoder) : List Entry :=
  Index.all.map fun index => Entry.compare index (encoder index) (wanted index)

/-- The same at some places only. -/
def entriesAt (places : List Index) (encoder wanted : Encoder) : List Entry :=
  places.map fun index => Entry.compare index (encoder index) (wanted index)

theorem entriesOf_eq_entriesAt (encoder wanted : Encoder) :
    entriesOf encoder wanted = entriesAt Index.all encoder wanted := rfl

theorem compare_palette (encoder wanted : Encoder) :
    compare wanted.palette encoder = .ok ⟨entriesOf encoder wanted⟩ := by
  rw [compare, if_pos wanted.length_palette, List.map_zip_eq_zipWith, Encoder.palette,
    List.zipWith_map_right, List.zipWith_self]
  rfl

theorem compare_eq_ok_iff {reference : List Rgb} {encoder : Encoder} :
    (∃ report, compare reference encoder = .ok report) ↔ reference.length = 133 := by
  constructor
  · rintro ⟨report, compared⟩
    rw [compare] at compared
    split at compared
    · assumption
    · cases compared
  · intro count
    exact ⟨_, by rw [compare, if_pos count]⟩

/-- Every report is that of two encoders. -/
theorem exists_entriesOf {reference : List Rgb} {encoder : Encoder} {report : Report}
    (compared : compare reference encoder = .ok report) :
    ∃ wanted : Encoder, reference = wanted.palette ∧ report = ⟨entriesOf encoder wanted⟩ := by
  obtain ⟨wanted, rfl⟩ := Encoder.exists_palette_eq (compare_eq_ok_iff.mp ⟨report, compared⟩)
  rw [compare_palette] at compared
  cases compared
  exact ⟨wanted, rfl, rfl⟩

theorem length_entriesOf (encoder wanted : Encoder) : (entriesOf encoder wanted).length = 133 := by
  simp [entriesOf]

theorem getElem?_entriesOf (encoder wanted : Encoder) (index : Index) :
    (entriesOf encoder wanted)[index.number]? =
      some (Entry.compare index (encoder index) (wanted index)) := by
  rw [entriesOf, List.getElem?_map, Index.getElem?_all]
  rfl

def channels : List (Index × Channel) :=
  Index.all.flatMap fun index => Channel.all.map fun which => (index, which)

theorem length_channels : channels.length = 399 := by
  simp [channels, List.length_flatMap, Channel.all, List.map_const']

theorem values_entriesOf (encoder wanted : Encoder) :
    Summary.values (entriesOf encoder wanted) =
      channels.map fun (index, which) =>
        (Difference.ofColors (encoder index) (wanted index)).channel which := by
  simp only [Summary.values, entriesOf, channels, List.flatMap_map, List.map_flatMap, List.map_map,
    Difference.toList_eq_map]
  rfl

end Report

end BandedPalette
