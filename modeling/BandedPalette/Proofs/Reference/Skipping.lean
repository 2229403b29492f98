import BandedPalette.Proofs.Color.Accepting
import BandedPalette.Proofs.Reference.Lines
namespace BandedPalette

/-! No colour is passed over.

Comments and colours share the mark `#`.  Behind the mark, or without it, a colour
goes on with a number, whichever way it is spelled.  What is skipped is empty there
or goes on with a blank or a slash, so it is never a colour too.
-/

namespace Numeral

inductive Opens : List Char → Prop where
  | intro (first : c = '+' ∨ c = '-' ∨ 47 < c.toNat) : Opens (c :: rest)

theorem WritesNumber.first_visible {base number : Nat} {c : Char} {rest : List Char}
    (few : base ≤ 16) (written : WritesNumber base number (c :: rest)) : 47 < c.toNat := by
  obtain ⟨_, each⟩ := written
  cases each with
  | cons first _ => exact (first.visible few).1

theorem WritesNumber.opens {base number : Nat} {text : List Char} (few : base ≤ 16)
    (written : WritesNumber base number text) : Opens text := by
  obtain ⟨c, rest, rfl, _⟩ := written.exists_cons few
  exact .intro (.inr (.inr (written.first_visible few)))

theorem WritesNatural.opens {base number : Nat} {text : List Char} (few : base ≤ 16)
    (written : WritesNatural base number text) : Opens text := by
  cases written with
  | plain written => exact written.opens few
  | plus => exact .intro (.inl rfl)

theorem WritesInteger.opens {value : Int} {text : List Char} (written : WritesInteger value text) :
    Opens text := by
  cases written with
  | plain written => exact written.opens (by decide)
  | plus => exact .intro (.inl rfl)
  | minus => exact .intro (.inr (.inl rfl))

end Numeral

namespace Rgb

open Numeral

section Opening

variable {source whole : List Char} {color : Rgb}

theorem Parts.exists_first {c : Char} {part : List Char} {others : List (List Char)}
    (trimmed : Text.Trims source (c :: whole)) (apart : c ≠ ',')
    (parts : Parts source (part :: others)) : ∃ back, part = c :: back := by
  have seen : Text.isBlank c = false := by
    cases trimmed with
    | solid _ solid _ =>
        obtain ⟨_, _, same, seen⟩ := solid.first
        cases same
        exact seen
  obtain ⟨piece, pieces, cut⟩ : ∃ piece pieces,
      Text.pieces ',' (c :: whole) = (c :: piece) :: pieces := by
    rw [Text.pieces, if_neg apart]
    split
    case h_1 => exact ⟨[], [], rfl⟩
    case h_2 piece pieces _ => exact ⟨piece, pieces, rfl⟩
  obtain ⟨back, _, front⟩ := Text.exists_trim_append (Text.Solid.single seen) piece
  have found := parts_iff.mp parts
  rw [trimmed.trim_eq, cut, List.map_cons, List.cons.injEq] at found
  exact ⟨back, found.1.symm.trans front⟩

/-- A colour starts as a number does, or does so behind the mark `#`. -/
theorem Denotes.opens (denoted : Denotes color source) (trimmed : Text.Trims source whole) :
    Opens whole ∨ ∃ digits, whole = '#' :: digits ∧ Opens digits := by
  cases denoted with
  | @hexadecimal found digits again _ unmarked _ written =>
      cases again.trim_eq.symm.trans trimmed.trim_eq
      have opens := written.opens (by decide)
      cases unmarked with
      | plain => exact .inl opens
      | marked known nonempty =>
          rcases mem_marks.mp known with rfl | rfl | rfl | rfl
          · exact absurd rfl nonempty
          · exact .inr ⟨digits, rfl, opens⟩
          · exact .inl (.intro (by decide))
          · exact .inl (.intro (by decide))
  | @decimal r g b parts red _ _ =>
      have opens := red.opens
      cases whole with
      | nil =>
          have cut := parts_iff.mp parts
          rw [trimmed.trim_eq] at cut
          cases cut
      | cons c rest =>
          by_cases comma : c = ','
          · have cut := parts_iff.mp parts
            rw [trimmed.trim_eq, Text.pieces, if_pos comma, List.map_cons, Text.trim_nil,
              List.cons.injEq] at cut
            rw [← cut.1] at opens
            cases opens
          · obtain ⟨back, rfl⟩ := parts.exists_first trimmed comma
            cases opens with
            | intro first => exact .inl (.intro first)

end Opening

end Rgb

namespace Reference

theorem Skipped.not_denotes {line : List Char} {color : Rgb} (skipped : Skipped line) :
    ¬ Rgb.Denotes color line := by
  have none {c : Char} {rest : List Char} (other : ¬ (c = '+' ∨ c = '-' ∨ 47 < c.toNat)) :
      ¬ Numeral.Opens (c :: rest) := by
    intro opens
    cases opens with
    | intro first => exact other first
  intro denoted
  cases skipped with
  | blank trimmed =>
      obtain opens | ⟨_, marked, _⟩ := denoted.opens trimmed
      · cases opens
      · cases marked
  | mark trimmed =>
      obtain opens | ⟨_, marked, opens⟩ := denoted.opens trimmed
      · exact none (by decide) opens
      · cases marked
        cases opens
  | hash trimmed =>
      obtain opens | ⟨_, marked, opens⟩ := denoted.opens trimmed
      · exact none (by decide) opens
      · cases marked
        exact none (by decide) opens
  | slashes trimmed =>
      obtain opens | ⟨_, marked, _⟩ := denoted.opens trimmed
      · exact none (by decide) opens
      · cases marked

theorem Skipped.exists_refused {line : List Char} (skipped : Skipped line) :
    ∃ fault, Rgb.ofChars line = .error fault := by
  rcases Rgb.ofChars_cases line with ⟨color, denoted⟩ | ⟨which, value, beyond⟩ | ⟨reason, misread⟩
  · exact absurd denoted skipped.not_denotes
  · exact ⟨_, Rgb.ofChars_of_exceeds beyond⟩
  · exact ⟨_, misread⟩

theorem Reads.filterMap_eq {lines : List (List Char)} {colors : List Rgb}
    (reads : Reads lines colors) :
    lines.filterMap (fun line => (Rgb.ofChars line).toOption) = colors := by
  induction reads with
  | nil => rfl
  | skip skipped _ ih =>
      obtain ⟨fault, refused⟩ := skipped.exists_refused
      rw [List.filterMap_cons_none (by rw [refused]; rfl), ih]
  | read _ accepted _ ih => rw [List.filterMap_cons_some (by rw [accepted]; rfl), ih]

/-- A line that is passed over denotes no colour, with or without a comma in it.
So a text is refused for a line that is neither passed over nor accepted, or all
accepted lines are read, one colour for each. -/
theorem skipping_drops_no_color :
    (∀ line : String, isSkipped (Text.trim line.toList) = true →
      (∃ fault, Rgb.ofText line = .error fault) ∧ ∀ color, ¬ Rgb.Denotes color line.toList) ∧
    ∀ text : String, ∃ lines, Text.Lines text.toList lines ∧
      ((∃ fault, ofText text = .error fault ∧ ∃ line ∈ lines, ¬ Passes line) ∨
        ∃ colors, ofText text = .ok colors ∧
          colors = lines.filterMap (fun line => (Rgb.ofText (String.ofList line)).toOption) ∧
          colors.length = lines.countP fun line => (Rgb.ofText (String.ofList line)).isOk) := by
  constructor
  · intro line skip
    have skipped : Skipped line.toList := skipped_iff.mpr skip
    exact ⟨skipped.exists_refused, fun color => skipped.not_denotes⟩
  · intro text
    refine ⟨Text.lines text.toList, Text.lines_iff.mpr rfl, ?_⟩
    rcases reads_or_firstRefused (Text.lines text.toList) with
      ⟨colors, reads⟩ | ⟨number, fault, first⟩
    · right
      have listed := reads.filterMap_eq
      refine ⟨colors, readLines_of_reads reads 0, ?_, ?_⟩
      · simpa only [Rgb.ofText, String.toList_ofList] using listed.symm
      · rw [← listed, List.length_filterMap_eq_countP]
        simp only [Rgb.ofText, String.toList_ofList]
        apply List.countP_congr
        intro line _
        cases Rgb.ofChars line <;> rfl
    · left
      exact ⟨_, readLines_of_firstRefused first 0, first.exists_not_passes⟩

example : (ofText "# 1,2,3\n//4,5,6\n#070809\n").toOption = some [⟨7, 8, 9⟩] := by decide

end Reference

end BandedPalette
