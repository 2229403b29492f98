import BandedPalette.Fault
import BandedPalette.Proofs.Result
import BandedPalette.Proofs.Text.Cutting
namespace BandedPalette.Reference

/-- White space alone, a lone `#`, or a comment, with white space around it. -/
inductive Skipped (line : List Char) : Prop where
  | blank (trimmed : Text.Trims line [])
  | mark (trimmed : Text.Trims line ['#'])
  | hash (trimmed : Text.Trims line ('#' :: ' ' :: rest))
  | slashes (trimmed : Text.Trims line ('/' :: '/' :: rest))

def Passes (line : List Char) : Prop :=
  Skipped line ∨ ∃ color, Rgb.ofChars line = .ok color

/-- Lines and their colours in order, none for a skipped line. -/
inductive Reads : List (List Char) → List Rgb → Prop where
  | nil : Reads [] []
  | skip (skipped : Skipped line) (rest : Reads lines colors) : Reads (line :: lines) colors
  | read {color : Rgb} (kept : ¬ Skipped line) (accepted : Rgb.ofChars line = .ok color)
      (rest : Reads lines colors) : Reads (line :: lines) (color :: colors)

/-- The number of the first line that is neither skipped nor accepted, and the
fault of that line. -/
inductive FirstRefused (fault : ColorFault) : List (List Char) → Nat → Prop where
  | intro (passed : ∀ line ∈ before, Passes line) (kept : ¬ Skipped line)
      (refused : Rgb.ofChars line = .error fault) :
      FirstRefused fault (before ++ line :: after) (before.length + 1)

section Step

variable {line : List Char}

theorem skipped_iff : Skipped line ↔ isSkipped (Text.trim line) = true := by
  constructor
  · intro skipped
    cases skipped with
    | blank trimmed => rw [trimmed.trim_eq, isSkipped]
    | mark trimmed => rw [trimmed.trim_eq, isSkipped]
    | hash trimmed => rw [trimmed.trim_eq, isSkipped]
    | slashes trimmed => rw [trimmed.trim_eq, isSkipped]
  · intro skipped
    unfold isSkipped at skipped
    split at skipped
    case h_1 trimmed => exact .blank (Text.trims_iff.mpr trimmed)
    case h_2 trimmed => exact .mark (Text.trims_iff.mpr trimmed)
    case h_3 trimmed => exact .hash (Text.trims_iff.mpr trimmed)
    case h_4 trimmed => exact .slashes (Text.trims_iff.mpr trimmed)
    case h_5 => cases skipped

/-- A colour is trimmed when it is read, so a line need not be. -/
theorem ofChars_trim (line : List Char) : Rgb.ofChars (Text.trim line) = Rgb.ofChars line := by
  rw [Rgb.ofChars, Text.trim_trim, Rgb.ofChars]

variable (before : Nat) (rest : List (List Char))

theorem readLines_skip (skipped : Skipped line) :
    readLines before (line :: rest) = readLines (before + 1) rest := by
  rw [readLines, if_pos (skipped_iff.mp skipped)]

theorem readLines_read {color : Rgb} (kept : ¬ Skipped line)
    (accepted : Rgb.ofChars line = .ok color) :
    readLines before (line :: rest) = (readLines (before + 1) rest).map (color :: ·) := by
  rw [readLines, if_neg (mt skipped_iff.mpr kept), ofChars_trim, accepted]

theorem readLines_refuse {fault : ColorFault} (kept : ¬ Skipped line)
    (refused : Rgb.ofChars line = .error fault) :
    readLines before (line :: rest) = .error ⟨before + 1, fault⟩ := by
  rw [readLines, if_neg (mt skipped_iff.mpr kept), ofChars_trim, refused]

theorem readLines_pass {fault : LineFault} (passes : Passes line)
    (later : readLines (before + 1) rest = .error fault) :
    readLines before (line :: rest) = .error fault := by
  by_cases skipped : Skipped line
  · rw [readLines_skip before rest skipped, later]
  · rcases passes with skip | ⟨color, accepted⟩
    · exact absurd skip skipped
    · rw [readLines_read before rest skipped accepted, later]
      rfl

end Step

section Run

variable {lines : List (List Char)}

theorem readLines_of_reads {colors : List Rgb} (reads : Reads lines colors) (before : Nat) :
    readLines before lines = .ok colors := by
  induction reads generalizing before with
  | nil => rfl
  | skip skipped _ ih => rw [readLines_skip before _ skipped, ih]
  | read kept accepted _ ih =>
      rw [readLines_read before _ kept accepted, ih]
      rfl

theorem readLines_of_firstRefused {fault : ColorFault} {number : Nat}
    (first : FirstRefused fault lines number) (before : Nat) :
    readLines before lines = .error ⟨before + number, fault⟩ := by
  obtain @⟨passing, line, after, passed, kept, refused⟩ := first
  induction passing generalizing before with
  | nil => exact readLines_refuse before after kept refused
  | cons first passing ih =>
      obtain ⟨passes, others⟩ := List.forall_mem_cons.mp passed
      have later := ih (before + 1) others
      rw [Nat.add_assoc, Nat.add_comm 1] at later
      exact readLines_pass before _ passes later

theorem FirstRefused.cons {fault : ColorFault} {number : Nat} {line : List Char}
    (passes : Passes line) (first : FirstRefused fault lines number) :
    FirstRefused fault (line :: lines) (number + 1) := by
  obtain ⟨passed, kept, refused⟩ := first
  exact .intro (List.forall_mem_cons.mpr ⟨passes, passed⟩) kept refused

theorem reads_or_firstRefused (lines : List (List Char)) :
    (∃ colors, Reads lines colors) ∨ ∃ number fault, FirstRefused fault lines number := by
  induction lines with
  | nil => exact .inl ⟨[], .nil⟩
  | cons line rest ih =>
      by_cases skipped : Skipped line
      · rcases ih with ⟨colors, reads⟩ | ⟨number, fault, first⟩
        · exact .inl ⟨colors, .skip skipped reads⟩
        · exact .inr ⟨number + 1, fault, first.cons (.inl skipped)⟩
      · cases read : Rgb.ofChars line with
        | error fault => exact .inr ⟨1, fault, .intro (List.forall_mem_nil _) skipped read⟩
        | ok color =>
            rcases ih with ⟨colors, reads⟩ | ⟨number, fault, first⟩
            · exact .inl ⟨color :: colors, .read skipped read reads⟩
            · exact .inr ⟨number + 1, fault, first.cons (.inr ⟨color, read⟩)⟩

theorem readLines_eq_ok_iff {colors : List Rgb} (before : Nat) :
    readLines before lines = .ok colors ↔ Reads lines colors := by
  constructor
  · intro read
    rcases reads_or_firstRefused lines with ⟨other, reads⟩ | ⟨number, fault, first⟩
    · cases (readLines_of_reads reads before).symm.trans read
      exact reads
    · cases (readLines_of_firstRefused first before).symm.trans read
  · exact fun reads => readLines_of_reads reads before

theorem readLines_eq_error_iff {number : Nat} {fault : ColorFault} (before : Nat) :
    readLines before lines = .error ⟨before + number, fault⟩ ↔
      FirstRefused fault lines number := by
  constructor
  · intro misread
    rcases reads_or_firstRefused lines with ⟨colors, reads⟩ | ⟨place, other, first⟩
    · cases (readLines_of_reads reads before).symm.trans misread
    · have same := (readLines_of_firstRefused first before).symm.trans misread
      simp only [Except.error.injEq, LineFault.mk.injEq, Nat.add_left_cancel_iff] at same
      obtain ⟨rfl, rfl⟩ := same
      exact first
  · exact fun first => readLines_of_firstRefused first before

theorem FirstRefused.exists_not_passes {fault : ColorFault} {number : Nat}
    (first : FirstRefused fault lines number) : ∃ line ∈ lines, ¬ Passes line := by
  obtain @⟨before, line, after, _, kept, refused⟩ := first
  refine ⟨line, by simp, ?_⟩
  rintro (skipped | ⟨color, accepted⟩)
  · exact kept skipped
  · cases accepted.symm.trans refused

theorem exists_reads_iff : (∃ colors, Reads lines colors) ↔ ∀ line ∈ lines, Passes line := by
  constructor
  · rintro ⟨colors, reads⟩
    induction reads with
    | nil => exact List.forall_mem_nil _
    | skip skipped _ ih => exact List.forall_mem_cons.mpr ⟨.inl skipped, ih⟩
    | read _ accepted _ ih => exact List.forall_mem_cons.mpr ⟨.inr ⟨_, accepted⟩, ih⟩
  · intro passed
    rcases reads_or_firstRefused lines with reads | ⟨number, fault, first⟩
    · exact reads
    · obtain ⟨line, member, stopped⟩ := first.exists_not_passes
      exact absurd (passed line member) stopped

end Run

open Numeral in
/-- A text whose lines all pass is read as their colours.  Any other is refused as
its first line that does not pass, with the number of the line in front. -/
theorem ofText_lines (text : String) :
    ∃ lines, Text.Lines text.toList lines ∧
      (∀ colors, ofText text = .ok colors ↔ Reads lines colors) ∧
      (∀ number fault, ofText text = .error ⟨number, fault⟩ ↔ FirstRefused fault lines number) ∧
      ((∃ colors, ofText text = .ok colors) ↔ ∀ line ∈ lines, Passes line) ∧
      ∀ number fault,
        (Fault.line ⟨number, fault⟩).faultClass = (Fault.color fault).faultClass ∧
          ((Fault.color fault).faultClass = .spelling ∨ (Fault.color fault).faultClass = .shape) ∧
          (Fault.line ⟨number, fault⟩).detail =
            "line " ++ decimal number ++ ": " ++ (Fault.color fault).detail := by
  have read (colors : List Rgb) :
      ofText text = .ok colors ↔ Reads (Text.lines text.toList) colors :=
    readLines_eq_ok_iff 0
  refine ⟨Text.lines text.toList, Text.lines_iff.mpr rfl, read, ?refused, ?passed, ?detail⟩
  case refused =>
    intro number fault
    rw [← readLines_eq_error_iff 0, Nat.zero_add]
    rfl
  case passed => simp only [read, exists_reads_iff]
  case detail =>
    intro number fault
    refine ⟨rfl, ?_, rfl⟩
    cases fault with
    | spelling => exact .inl rfl
    | shape => exact .inr rfl

end BandedPalette.Reference
