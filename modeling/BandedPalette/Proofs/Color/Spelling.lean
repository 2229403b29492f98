import BandedPalette.Color.Spelling
import BandedPalette.Proofs.Numeral.Digits
import BandedPalette.Proofs.Text.Layout
namespace BandedPalette.Rgb

open Numeral

/-- White space that ends no line. -/
def Spaces (text : List Char) : Prop :=
  ∀ c ∈ text, Text.isBlank c = true ∧ c ≠ '\n'

inductive WritesPair (level : UInt8) : List Char → Prop where
  | intro (high : hexValue? a = some i) (low : hexValue? b = some j)
      (value : level.toNat = i * 16 + j) : WritesPair level [a, b]

/-- The decimal digits of a level, with or without zeros in front. -/
structure WritesLevel (level : UInt8) (text : List Char) : Prop where
  nonempty : text ≠ []
  digits : ∀ c ∈ text, c.isDigit = true
  value : Nat.ofDigitChars 10 text 0 = level.toNat

def marks : List (List Char) :=
  [[], ['#'], ['0', 'x'], ['0', 'X']]

theorem mem_marks {mark : List Char} :
    mark ∈ marks ↔ mark = [] ∨ mark = ['#'] ∨ mark = ['0', 'x'] ∨ mark = ['0', 'X'] := by
  simp [marks]

inductive Spells (color : Rgb) : List Char → Prop where
  | hexadecimal (marked : mark ∈ marks) (red : WritesPair color.red r)
      (green : WritesPair color.green g) (blue : WritesPair color.blue b) :
      Spells color (mark ++ (r ++ (g ++ b)))
  | decimal (red : WritesLevel color.red r) (green : WritesLevel color.green g)
      (blue : WritesLevel color.blue b) (afterRed : Spaces i) (beforeGreen : Spaces j)
      (afterGreen : Spaces k) (beforeBlue : Spaces l) :
      Spells color (r ++ (i ++ ',' :: (j ++ (g ++ (k ++ ',' :: (l ++ b))))))

theorem writesPair_hexPair (level : UInt8) : WritesPair level (hexPair level) := by
  have known : ∀ digit < 16, hexValue? (Nat.digitChar digit) = some digit := by decide
  have bound := level.toNat_lt
  exact .intro (known (level.toNat / 16) (by omega)) (known (level.toNat % 16) (by omega))
    (by omega)

theorem spells_text (color : Rgb) : Spells color color.text.toList := by
  have marked : ['#'] ∈ marks := by decide
  have spelled := Spells.hexadecimal marked (writesPair_hexPair color.red)
    (writesPair_hexPair color.green) (writesPair_hexPair color.blue)
  rw [text, String.toList_ofList]
  simpa [toBytes] using spelled

theorem isBlank_of_visible {c : Char} (least : 32 < c.toNat) (greatest : c.toNat < 127) :
    Text.isBlank c = false := by
  simp only [Text.isBlank, Bool.or_eq_false_iff, Bool.and_eq_false_iff, decide_eq_false_iff_not,
    beq_eq_false_iff_ne]
  omega

theorem utf8Size_of_visible {c : Char} (greatest : c.toNat < 127) : c.utf8Size = 1 := by
  have ascii : c.val ≤ 127 := by
    rw [UInt32.le_iff_toNat_le]
    exact Nat.le_of_lt greatest
  exact if_pos ascii

theorem hex_visible {c : Char} {digit : Nat} (known : hexValue? c = some digit) :
    47 < c.toNat ∧ c.toNat < 127 := by
  have place := hexValue?_eq_some known
  omega

theorem digit_visible {c : Char} (digit : c.isDigit = true) : 47 < c.toNat ∧ c.toNat < 58 := by
  obtain ⟨least, greatest⟩ := Char.isDigit_iff_toNat.mp digit
  exact ⟨least, Nat.lt_succ_of_le greatest⟩

theorem ne_of_visible {c other : Char} (visible : 47 < c.toNat) (earlier : other.toNat ≤ 47) :
    c ≠ other := by
  rintro rfl
  omega

theorem WritesPair.not_mem {level : UInt8} {text : List Char} {c : Char}
    (pair : WritesPair level text) (earlier : c.toNat ≤ 47) : c ∉ text := by
  obtain ⟨high, low, _⟩ := pair
  have apart {other : Char} {digit : Nat} (known : hexValue? other = some digit) : c ≠ other :=
    (ne_of_visible (hex_visible known).1 earlier).symm
  simp [apart high, apart low]

theorem text_not_mem {c : Char} (color : Rgb) (earlier : c.toNat ≤ 47) (unmarked : c ≠ '#') :
    c ∉ color.text.toList := by
  have digits (level : UInt8) : c ∉ hexPair level := (writesPair_hexPair level).not_mem earlier
  rw [text, String.toList_ofList]
  simp [toBytes, unmarked, digits]

theorem WritesLevel.not_mem {level : UInt8} {text : List Char} {c : Char}
    (written : WritesLevel level text) (other : c.isDigit = false) : c ∉ text := by
  intro member
  rw [written.digits c member] at other
  cases other

theorem Spaces.not_mem {text : List Char} {c : Char} (spaces : Spaces text)
    (seen : Text.isBlank c = false) : c ∉ text :=
  Text.not_mem_of_blank (fun c member => (spaces c member).1) seen

theorem Spaces.newline_not_mem {text : List Char} (spaces : Spaces text) : '\n' ∉ text :=
  fun member => (spaces '\n' member).2 rfl

theorem WritesPair.solid {level : UInt8} {text : List Char} (pair : WritesPair level text) :
    Text.Solid text := by
  obtain @⟨a, i, b, j, high, low, _⟩ := pair
  have first := hex_visible high
  have second := hex_visible low
  exact ⟨⟨a, [b], rfl, isBlank_of_visible (by omega) first.2⟩,
    ⟨[a], b, rfl, isBlank_of_visible (by omega) second.2⟩⟩

theorem WritesLevel.solid {level : UInt8} {text : List Char} (written : WritesLevel level text) :
    Text.Solid text := by
  have visible : ∀ c ∈ text, Text.isBlank c = false := by
    intro c member
    have place := digit_visible (written.digits c member)
    exact isBlank_of_visible (by omega) (by omega)
  obtain ⟨c, rest, front⟩ := List.exists_cons_of_ne_nil written.nonempty
  have back := (List.dropLast_concat_getLast written.nonempty).symm
  exact ⟨⟨c, rest, front, visible c (by simp [front])⟩,
    ⟨_, _, back, visible _ (List.getLast_mem written.nonempty)⟩⟩

theorem Spells.solid {color : Rgb} {text : List Char} (spelled : Spells color text) :
    Text.Solid text := by
  cases spelled with
  | @hexadecimal mark r g b marked red green blue =>
      have digits := red.solid.between blue.solid g
      rcases mem_marks.mp marked with rfl | rfl | rfl | rfl
      · exact digits
      · exact digits.cons (by decide)
      · exact (digits.cons (by decide)).cons (by decide)
      · exact (digits.cons (by decide)).cons (by decide)
  | @decimal r g b i j k l red green blue _ _ _ _ =>
      have whole := red.solid.between blue.solid (i ++ ',' :: (j ++ (g ++ (k ++ ',' :: l))))
      simpa using whole

theorem Spells.newline_not_mem {color : Rgb} {text : List Char} (spelled : Spells color text) :
    '\n' ∉ text := by
  cases spelled with
  | @hexadecimal mark r g b marked red green blue =>
      have unmarked : ∀ mark ∈ marks, '\n' ∉ mark := by decide
      simp [unmarked mark marked, red.not_mem, green.not_mem, blue.not_mem]
  | decimal red green blue afterRed beforeGreen afterGreen beforeBlue =>
      simp [red.not_mem, green.not_mem, blue.not_mem, afterRed.newline_not_mem,
        beforeGreen.newline_not_mem, afterGreen.newline_not_mem, beforeBlue.newline_not_mem]

end BandedPalette.Rgb
