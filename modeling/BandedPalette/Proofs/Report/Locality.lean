import Mathlib.Data.Set.Basic
import BandedPalette.Proofs.Encoding
import BandedPalette.Proofs.Report.Bands
namespace BandedPalette

namespace Report

structure AgreeAt (left right : Report) (index : Index) : Prop where
  entry : ∃ entry, left.entries[index.number]? = some entry ∧
    right.entries[index.number]? = some entry
  series : ∀ which, ∃ error, (left.series which)[index.number]? = some error ∧
    (right.series which)[index.number]? = some error

def AgreeOn (left right : Report) (band : Band) : Prop :=
  ∃ summary, left.bands[band.val]? = some (band, summary) ∧
    right.bands[band.val]? = some (band, summary)

section Comparisons

variable {first second wanted other : Encoder}

theorem getElem?_series_entriesOf (encoder wanted : Encoder) (index : Index) (which : Channel) :
    (series ⟨entriesOf encoder wanted⟩ which)[index.number]? =
      some ((Difference.ofColors (encoder index) (wanted index)).channel which) := by
  rw [series, List.getElem?_map, getElem?_entriesOf]
  rfl

theorem agreeAt_entriesOf {index : Index} (computed : first index = second index)
    (reference : wanted index = other index) :
    AgreeAt ⟨entriesOf first wanted⟩ ⟨entriesOf second other⟩ index where
  entry := by
    refine ⟨_, getElem?_entriesOf first wanted index, ?_⟩
    rw [computed, reference]
    exact getElem?_entriesOf second other index
  series := by
    intro which
    refine ⟨_, getElem?_series_entriesOf first wanted index which, ?_⟩
    rw [computed, reference]
    exact getElem?_series_entriesOf second other index which

theorem entriesAt_congr {places : List Index}
    (computed : ∀ index ∈ places, first index = second index)
    (reference : ∀ index ∈ places, wanted index = other index) :
    entriesAt places first wanted = entriesAt places second other := by
  apply List.map_congr_left
  intro index member
  rw [computed index member, reference index member]

theorem agreeOn_entriesOf {band : Band}
    (computed : ∀ index : Index, index.band = band → first index = second index)
    (reference : ∀ index : Index, index.band = band → wanted index = other index) :
    AgreeOn ⟨entriesOf first wanted⟩ ⟨entriesOf second other⟩ band := by
  have within {index : Index} (member : index ∈ Index.all.filter fun index => index.band = band) :
      index.band = band :=
    of_decide_eq_true (List.mem_filter.mp member).2
  have same := entriesAt_congr (fun index member => computed index (within member))
    fun index member => reference index (within member)
  refine ⟨_, getElem?_bands_entriesOf first wanted band, ?_⟩
  rw [same]
  exact getElem?_bands_entriesOf second other band

end Comparisons

end Report

namespace Formula

/-- Two formulas that differ in nothing but the bounds of some bands and the hue
codes of some slots, which are counted from the gray one. -/
structure AgreeOutside (bands : Set Band) (slots : Set Slot) (left right : Formula) : Prop where
  base : ∀ band, band ∉ bands → left.tables.baseOf band = right.tables.baseOf band
  top : ∀ band, band ∉ bands → left.tables.topOf band = right.tables.topOf band
  code : ∀ hue : Hue, hue.succ ∉ slots → left.tables.codeOf hue = right.tables.codeOf hue

section Edits

variable {bands : Set Band} {slots : Set Slot} {left right : Formula}

theorem AgreeOutside.bounds (agree : AgreeOutside bands slots left right) {band : Band}
    (outside : band ∉ bands) : left.bounds band = right.bounds band := by
  simp only [Formula.bounds, agree.base band outside, agree.top band outside]

theorem AgreeOutside.hueCode (agree : AgreeOutside bands slots left right) {index : Index}
    {hue : Hue} (found : index.hue? = some hue) (outside : index.slot ∉ slots) :
    left.hueCode hue = right.hueCode hue := by
  -- The code of a slot stands one place before it, since the gray has none.
  have place : hue.succ = index.slot := Fin.ext (Index.hue?_eq_some_iff.mp found).symm
  rw [Formula.hueCode, Formula.hueCode, agree.code hue (place ▸ outside)]

theorem AgreeOutside.encode (agree : AgreeOutside bands slots left right) {index : Index}
    (band : index.band ∉ bands) (slot : index.slot ∉ slots) :
    left.encode index = right.encode index :=
  encode_congr (agree.bounds band) fun _ found => agree.hueCode found slot

end Edits

end Formula

namespace Report

/-- The entry of a gray is the same for every formula.  Formulas that differ in
some bands and some slots lead to reports that say the same of every place in
another band and another slot, and, where no slot differs, of every other band. -/
theorem formula_edits_local :
    (∀ (formula : Formula) (reference : List Rgb) (index : Index) (color : Rgb),
      reference.length = 133 → index.slot.val = 0 → reference[index.number]? = some color →
        ∃ report, compare reference formula.encode = .ok report ∧
          report.entries[index.number]? =
            some (Entry.compare index (Rgb.gray (grayLevel index.band)) color)) ∧
      ∀ (bands : Set Band) (slots : Set Slot) (left right : Formula) (reference : List Rgb),
        left.AgreeOutside bands slots right → reference.length = 133 →
          ∃ before after, compare reference left.encode = .ok before ∧
            compare reference right.encode = .ok after ∧
            (∀ index : Index, index.slot.val = 0 → AgreeAt before after index) ∧
            (∀ index : Index, index.band ∉ bands → index.slot ∉ slots →
              AgreeAt before after index) ∧
            (slots = ∅ → ∀ band, band ∉ bands → AgreeOn before after band) := by
  constructor
  case left =>
    intro formula reference index color count gray found
    obtain ⟨wanted, rfl⟩ := Encoder.exists_palette_eq count
    refine ⟨_, compare_palette formula.encode wanted, ?_⟩
    have same : wanted index = color :=
      Option.some.inj ((wanted.getElem?_palette index).symm.trans found)
    rw [getElem?_entriesOf, formula.encode_gray gray, same]
  case right =>
    intro bands slots left right reference agree count
    obtain ⟨wanted, rfl⟩ := Encoder.exists_palette_eq count
    refine ⟨_, _, compare_palette left.encode wanted, compare_palette right.encode wanted,
      ?grays, ?places, ?bands⟩
    case grays =>
      intro index gray
      exact agreeAt_entriesOf (Formula.encode_gray_congr left right gray) rfl
    case places =>
      intro index band slot
      exact agreeAt_entriesOf (agree.encode band slot) rfl
    case bands =>
      intro untouched band outside
      apply agreeOn_entriesOf
      · intro index within
        exact agree.encode (within ▸ outside) (untouched ▸ Set.notMem_empty index.slot)
      · intro index _
        rfl

def liftedTables : Tables :=
  { Formula.standardTables with top := #v[256, 200, 192, 192, 256, 192, 128] }

def lifted : Formula :=
  ⟨liftedTables, Tables.fault?_eq_none_iff.mp (by decide)⟩

theorem formula_edits_local_lifted :
    Formula.standard.AgreeOutside {1} ∅ lifted ∧ Reference.table.length = 133 ∧
      ∃ before after, compare Reference.table Formula.standard.encode = .ok before ∧
        compare Reference.table lifted.encode = .ok after ∧
        AgreeAt before after ⟨19⟩ ∧ AgreeOn before after 0 := by
  have agree : Formula.standard.AgreeOutside {1} ∅ lifted := by
    constructor
    · intro band outside
      rfl
    · intro band outside
      have others : ∀ other : Band, other ≠ 1 →
          Formula.standard.tables.topOf other = lifted.tables.topOf other := by decide
      exact others band outside
    · intro hue outside
      rfl
  obtain ⟨before, after, first, second, grays, places, bands⟩ :=
    formula_edits_local.2 {1} ∅ Formula.standard lifted Reference.table agree
      Reference.length_table
  have outside : (0 : Band) ∉ ({1} : Set Band) := by
    change (0 : Band) ≠ 1
    decide
  exact ⟨agree, Reference.length_table, before, after, first, second, grays ⟨19⟩ rfl,
    bands rfl 0 outside⟩

end Report

end BandedPalette
