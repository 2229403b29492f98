import BandedPalette.Proofs.Reference.Skipping
namespace BandedPalette.Reference

open Rgb (Spells Spaces)

inductive WritesLine (color : Rgb) : List Char → Prop where
  | intro (left : Spaces before) (spelled : Spells color middle) (right : Spaces after) :
      WritesLine color (before ++ middle ++ after)

/-- Colours in their order, one on each line.  The last line may lack its end. -/
inductive Writes : List Rgb → List Char → Prop where
  | nil : Writes [] []
  | last {color : Rgb} {text : List Char} (line : WritesLine color text) : Writes [color] text
  | cons {color : Rgb} (line : WritesLine color front) (rest : Writes colors back) :
      Writes (color :: colors) (front ++ '\n' :: back)

/-- No spelling of a colour is passed over, not even one behind a `#`. -/
theorem isSkipped_of_spells {color : Rgb} {text : List Char} (spelled : Spells color text) :
    isSkipped text = false := by
  apply Bool.eq_false_iff.mpr
  intro skip
  rw [← spelled.solid.trim_eq] at skip
  exact (skipped_iff.mpr skip).not_denotes spelled.denotes

theorem trim_line {color : Rgb} {text : List Char} (line : WritesLine color text) :
    Spells color (Text.trim text) := by
  obtain ⟨left, spelled, right⟩ := line
  rw [spelled.solid.trim_between (fun c member => (left c member).1)
    (fun c member => (right c member).1)]
  exact spelled

theorem newline_not_mem_line {color : Rgb} {text : List Char} (line : WritesLine color text) :
    '\n' ∉ text := by
  obtain ⟨left, spelled, right⟩ := line
  simp [left.newline_not_mem, right.newline_not_mem, spelled.newline_not_mem]

theorem readLines_cons {color : Rgb} {line : List Char} (spelled : Spells color (Text.trim line))
    (before : Nat) (rest : List (List Char)) :
    readLines before (line :: rest) = (readLines (before + 1) rest).map (color :: ·) := by
  simp only [readLines, isSkipped_of_spells spelled, Rgb.ofChars_of_spells spelled]
  rfl

theorem readLines_texts (colors : List Rgb) (before : Nat) :
    readLines before (colors.map fun color => color.text.toList) = .ok colors := by
  induction colors generalizing before with
  | nil => rfl
  | cons color rest ih =>
      have spelled := color.spells_text
      rw [← spelled.solid.trim_eq] at spelled
      rw [List.map_cons, readLines_cons spelled, ih]
      rfl

theorem readLines_of_writes {colors : List Rgb} {text : List Char} (written : Writes colors text)
    (before : Nat) : readLines before (Text.lines text) = .ok colors := by
  induction written generalizing before with
  | nil => rfl
  | @last color text line =>
      have spelled := trim_line line
      have nonempty : text ≠ [] := by
        rintro rfl
        exact spelled.solid.ne_nil rfl
      rw [Text.lines_of_not_mem (newline_not_mem_line line) nonempty, readLines_cons spelled]
      rfl
  | cons line _ ih =>
      have spelled := trim_line line
      rw [← Text.trim_withoutReturn] at spelled
      rw [Text.lines_append (newline_not_mem_line line), readLines_cons spelled, ih]
      rfl

theorem ofText_of_writes {colors : List Rgb} {text : String} (written : Writes colors text.toList) :
    ofText text = .ok colors :=
  readLines_of_writes written 0

end BandedPalette.Reference
