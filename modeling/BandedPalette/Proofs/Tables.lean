import Mathlib.Data.Fin.Tuple.Basic
import BandedPalette.Fault
import BandedPalette.Formula
namespace BandedPalette

namespace Tables

open Numeral

def SoundTop (tables : Tables) (band : Band) : Prop :=
  1 ≤ (tables.topOf band).toNat ∧ (tables.topOf band).toNat ≤ 256

def SoundBand (tables : Tables) (band : Band) : Prop :=
  tables.SoundTop band ∧ (tables.baseOf band).toNat ≤ (tables.topOf band).toNat

def SoundCode (tables : Tables) (hue : Hue) : Prop :=
  (tables.codeOf hue).toNat ≤ 63

/-- A fault before which everything is sound, and what is said of it. -/
inductive FirstFault (tables : Tables) : TableFault → String → Prop where
  | top (before : ∀ earlier < band, tables.SoundBand earlier)
      (outside : ¬ tables.SoundTop band) :
      FirstFault tables (.top band (tables.topOf band))
        ("degenerate table: top[" ++ decimal band.val ++ "]=" ++
          decimal (tables.topOf band).toNat ++ " must be in 1..=256")
  | base (before : ∀ earlier < band, tables.SoundBand earlier) (inside : tables.SoundTop band)
      (above : (tables.topOf band).toNat < (tables.baseOf band).toNat) :
      FirstFault tables (.base band (tables.baseOf band) (tables.topOf band))
        ("degenerate table: base[" ++ decimal band.val ++ "]=" ++
          decimal (tables.baseOf band).toNat ++ " exceeds top[" ++ decimal band.val ++ "]=" ++
          decimal (tables.topOf band).toNat)
  | hueCode (bands : ∀ band, tables.SoundBand band)
      (before : ∀ earlier < hue, tables.SoundCode earlier) (wide : ¬ tables.SoundCode hue) :
      FirstFault tables (.hueCode hue (tables.codeOf hue))
        ("degenerate table: hue code for slot " ++ decimal (hue.val + 1) ++ " is 0b" ++
          binary 0 (tables.codeOf hue).toNat ++ ", wider than 6 bits")

section Steps

variable {tables : Tables} {band : Band} {hue : Hue} {fault : TableFault}

theorem top_outside_iff :
    tables.topOf band = 0 ∨ 256 < tables.topOf band ↔ ¬ tables.SoundTop band := by
  rw [← UInt16.toNat_inj, UInt16.lt_iff_toNat_lt, SoundTop]
  simp only [UInt16.reduceToNat]
  omega

theorem bandFault?_of_not_soundTop (outside : ¬ tables.SoundTop band) :
    tables.bandFault? band = some (.top band (tables.topOf band)) := by
  rw [bandFault?, if_pos (top_outside_iff.mpr outside)]

theorem bandFault?_of_soundTop (inside : tables.SoundTop band) :
    tables.bandFault? band =
      if (tables.topOf band).toNat < (tables.baseOf band).toNat then
        some (.base band (tables.baseOf band) (tables.topOf band))
      else none := by
  rw [bandFault?, if_neg fun outside => top_outside_iff.mp outside inside]
  rfl

/-- What one band is refused for: a base is looked at under a sound top only. -/
theorem bandFault?_eq_some_iff :
    tables.bandFault? band = some fault ↔
      ¬ tables.SoundTop band ∧ fault = .top band (tables.topOf band) ∨
        tables.SoundTop band ∧ (tables.topOf band).toNat < (tables.baseOf band).toNat ∧
          fault = .base band (tables.baseOf band) (tables.topOf band) := by
  by_cases inside : tables.SoundTop band
  · rw [bandFault?_of_soundTop inside]
    simp [inside, eq_comm]
  · rw [bandFault?_of_not_soundTop inside]
    simp [inside, eq_comm]

theorem bandFault?_eq_none_iff_soundBand :
    tables.bandFault? band = none ↔ tables.SoundBand band := by
  rw [bandFault?_eq_none_iff, SoundBand, SoundTop, and_assoc]
  rfl

theorem codeFault?_eq_some_iff :
    tables.codeFault? hue = some fault ↔
      ¬ tables.SoundCode hue ∧ fault = .hueCode hue (tables.codeOf hue) := by
  have wide : 63 < tables.codeOf hue ↔ ¬ tables.SoundCode hue := Nat.not_le.symm
  simp [codeFault?, wide, eq_comm]

theorem codeFault?_eq_none_iff_soundCode : tables.codeFault? hue = none ↔ tables.SoundCode hue :=
  codeFault?_eq_none_iff

/-- The run over the bands ends at the first that is not sound, and the run over
the codes starts only if there is none. -/
theorem fault?_eq_some_iff :
    tables.fault? = some fault ↔
      (∃ band, tables.bandFault? band = some fault ∧
          ∀ earlier < band, tables.SoundBand earlier) ∨
        (∀ band, tables.SoundBand band) ∧
          ∃ hue, tables.codeFault? hue = some fault ∧
            ∀ earlier < hue, tables.SoundCode earlier := by
  rw [fault?, Option.or_eq_some_iff, ← Fin.findSome?_eq_findSome?_finRange,
    ← Fin.findSome?_eq_findSome?_finRange, Fin.findSome?_eq_some_iff, Fin.findSome?_eq_none_iff,
    Fin.findSome?_eq_some_iff]
  simp only [bandFault?_eq_none_iff_soundBand, codeFault?_eq_none_iff_soundCode]

/-- The one fault that is found is the first, and its message is the one that
belongs to it. -/
theorem fault?_eq_some_iff_firstFault :
    tables.fault? = some fault ↔ tables.FirstFault fault (Fault.tables fault).message := by
  rw [fault?_eq_some_iff]
  constructor
  · rintro (⟨band, found, before⟩ | ⟨bands, hue, found, before⟩)
    · rcases bandFault?_eq_some_iff.mp found with ⟨outside, rfl⟩ | ⟨inside, above, rfl⟩
      · exact .top before outside
      · exact .base before inside above
    · obtain ⟨wide, rfl⟩ := codeFault?_eq_some_iff.mp found
      exact .hueCode bands before wide
  · intro first
    cases first with
    | @top band before outside =>
        exact .inl ⟨band, bandFault?_eq_some_iff.mpr (.inl ⟨outside, rfl⟩), before⟩
    | @base band before inside above =>
        exact .inl ⟨band, bandFault?_eq_some_iff.mpr (.inr ⟨inside, above, rfl⟩), before⟩
    | @hueCode hue bands before wide =>
        exact .inr ⟨bands, hue, codeFault?_eq_some_iff.mpr ⟨wide, rfl⟩, before⟩

theorem sound_iff :
    tables.Sound ↔ (∀ band, tables.SoundBand band) ∧ ∀ hue, tables.SoundCode hue := by
  constructor
  · intro sound
    exact ⟨fun band => ⟨⟨sound.top_pos band, sound.top_le band⟩, sound.base_le band⟩,
      sound.code_le⟩
  · rintro ⟨bands, codes⟩
    exact ⟨fun band => (bands band).1.1, fun band => (bands band).1.2,
      fun band => (bands band).2, codes⟩

end Steps

end Tables

namespace Formula

/-- Tables are taken exactly if every band and every code is sound.  Otherwise they
are refused in the class of table faults, for the least band that has a fault, or
for the least code that is too wide if no band has one. -/
theorem ofTables_reports_first (tables : Tables) :
    ((∃ formula, ofTables tables = .ok formula ∧ formula.tables = tables) ↔
        (∀ band, tables.SoundBand band) ∧ ∀ hue, tables.SoundCode hue) ∧
      ∀ fault, (ofTables tables = .error fault ↔
          tables.FirstFault fault (Fault.tables fault).message) ∧
        (Fault.tables fault).faultClass = .tables := by
  refine ⟨?taken, fun fault => ⟨?refused, rfl⟩⟩
  case taken =>
    rw [← Tables.sound_iff]
    constructor
    · rintro ⟨formula, _, rfl⟩
      exact formula.sound
    · intro sound
      exact ⟨⟨tables, sound⟩, ofTables_eq_ok_iff.mpr rfl, rfl⟩
  case refused => rw [ofTables_eq_error_iff, Tables.fault?_eq_some_iff_firstFault]

example : ofTables { standardTables with
      base := #v[192, 144, 300, 64, 200, 0, 0]
      top := #v[256, 192, 257, 192, 100, 0, 128]
      hueCodes := standardTables.hueCodes.set 0 64 } = .error (.top 2 257) := by
  rw [ofTables_eq_error_iff]
  decide

end Formula

end BandedPalette
