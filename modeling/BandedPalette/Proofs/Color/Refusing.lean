import BandedPalette.Fault
import BandedPalette.Proofs.Color.Accepting
namespace BandedPalette.Rgb

open Numeral

inductive FirstMisspelled : List (List Char) → List Char → Prop where
  | here (other : ∀ value, ¬ Integer64 value part) : FirstMisspelled (part :: rest) part
  | later (known : Integer64 value first) (rest : FirstMisspelled parts part) :
      FirstMisspelled (first :: parts) part

/-- Three parts that are not all numbers, and the first that is none. -/
inductive Misspells (source part : List Char) : Prop where
  | intro (parts : Parts source [r, g, b]) (first : FirstMisspelled [r, g, b] part)

section Outcome

variable {source part : List Char}

theorem exists_readLevel_error (other : ∀ value, ¬ Integer64 value part) :
    ∃ reason, readLevel part = .error (.spelling (.numeral (String.ofList part) reason)) := by
  rcases readLevel_cases part with ⟨value, _, known⟩ | ⟨_, misread⟩
  · exact absurd known (other value)
  · exact misread

/-- The parts are read in their order, and before any of them is held against
the range of a level. -/
theorem ofChars_of_misspells (misspelled : Misspells source part) :
    ∃ reason, ofChars source = .error (.spelling (.numeral (String.ofList part) reason)) := by
  obtain ⟨parts, first⟩ := misspelled
  rw [ofChars_of_parts parts]
  cases first with
  | here other => exact (exists_readLevel_error other).imp fun _ misread => by rw [misread]; rfl
  | later red first =>
      rw [readLevel_of_integer64 red]
      cases first with
      | here other =>
          exact (exists_readLevel_error other).imp fun _ misread => by rw [misread]; rfl
      | later green first =>
          rw [readLevel_of_integer64 green]
          cases first with
          | here other =>
              exact (exists_readLevel_error other).imp fun _ misread => by rw [misread]; rfl
          | later _ first => cases first

theorem exists_exceeds_iff :
    (∃ which value, Exceeds source which value) ↔
      ∃ r g b i j k, Parts source [r, g, b] ∧ Integer64 i r ∧ Integer64 j g ∧ Integer64 k b ∧
        ∃ value ∈ [i, j, k], ¬ (0 ≤ value ∧ value ≤ 255) := by
  constructor
  · rintro ⟨which, value, @⟨r, g, b, i, j, k, parts, red, green, blue, first⟩⟩
    exact ⟨r, g, b, i, j, k, parts, red, green, blue,
      exists_firstOutside_iff.mp ⟨which, value, first⟩⟩
  · rintro ⟨r, g, b, i, j, k, parts, red, green, blue, outside⟩
    obtain ⟨which, value, first⟩ := exists_firstOutside_iff.mpr outside
    exact ⟨which, value, .intro parts red green blue first⟩

theorem refused_cases {fault : ColorFault} (refused : ofChars source = .error fault) :
    (∃ which value, Exceeds source which value ∧ fault = .shape (.channel which value)) ∨
      (∀ which value, ¬ Exceeds source which value) ∧ ∃ reason, fault = .spelling reason := by
  rcases ofChars_cases source with ⟨color, denoted⟩ | ⟨which, value, beyond⟩ | ⟨reason, misread⟩
  · cases (ofChars_of_denotes denoted).symm.trans refused
  · cases (ofChars_of_exceeds beyond).symm.trans refused
    exact .inl ⟨which, value, beyond, rfl⟩
  · cases misread.symm.trans refused
    refine .inr ⟨fun which value beyond => ?_, reason, rfl⟩
    cases (ofChars_of_exceeds beyond).symm.trans misread

end Outcome

/-- A text is refused for its shape exactly when it has three numbers that are
not all levels, and the first that is none is named.  All other refusals are for
the spelling, by the first part that is no number if there are three.  That a
number is wider than a colour is never a reason. -/
theorem refusals_classified (source : String) :
    (∀ fault, ofText source = .error fault →
      ((Fault.color fault).faultClass = .spelling ∨ (Fault.color fault).faultClass = .shape) ∧
        ((Fault.color fault).faultClass = .shape ↔
          ∃ r g b i j k, Parts source.toList [r, g, b] ∧ Integer64 i r ∧ Integer64 j g ∧
            Integer64 k b ∧ ∃ value ∈ [i, j, k], ¬ (0 ≤ value ∧ value ≤ 255)) ∧
        ∀ word, fault ≠ .shape (.wide word)) ∧
    (∀ which value, Exceeds source.toList which value →
      ∃ fault, ofText source = .error fault ∧ (Fault.color fault).faultClass = .shape ∧
        (Fault.color fault).detail =
          which.name ++ " channel " ++ signed value ++ " outside 0..=255") ∧
    ∀ part, Misspells source.toList part →
      ∃ fault reason, ofText source = .error fault ∧ (Fault.color fault).faultClass = .spelling ∧
        (Fault.color fault).detail =
          String.ofList (Text.quote part) ++ ": " ++ ReadFault.message reason := by
  refine ⟨?classes, ?range, ?misspelled⟩
  case classes =>
    intro fault refused
    rw [← exists_exceeds_iff]
    rcases refused_cases refused with ⟨which, value, beyond, rfl⟩ | ⟨within, reason, rfl⟩
    · exact ⟨.inr rfl, ⟨fun _ => ⟨which, value, beyond⟩, fun _ => rfl⟩, fun word => nofun⟩
    · refine ⟨.inl rfl, ⟨nofun, ?_⟩, fun word => nofun⟩
      rintro ⟨which, value, beyond⟩
      exact absurd beyond (within which value)
  case range =>
    intro which value beyond
    exact ⟨.shape (.channel which value), ofChars_of_exceeds beyond, rfl, rfl⟩
  case misspelled =>
    intro part misspelled
    obtain ⟨reason, misread⟩ := ofChars_of_misspells misspelled
    have detail (text : String) : (Fault.color (.spelling (.numeral text reason))).detail =
        String.ofList (Text.quote text.toList) ++ ": " ++ reason.message := rfl
    refine ⟨.spelling (.numeral (String.ofList part) reason), reason, misread, rfl, ?_⟩
    rw [detail, String.toList_ofList]

example : ofText "300, 0, x" = .error (.spelling (.numeral "x" .invalidDigit)) := by decide

example : ofText "300, 0, 256" = .error (.shape (.channel .red 300)) := by decide

end BandedPalette.Rgb
