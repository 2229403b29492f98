import BandedPalette.Proofs.Color.Packing
import BandedPalette.Proofs.Color.Spelling
import BandedPalette.Proofs.Numeral.Accepting
import BandedPalette.Proofs.Text.Cutting
namespace BandedPalette.Rgb

open Numeral

inductive Unmarked : List Char → List Char → Prop where
  | marked (known : mark ∈ marks) (nonempty : mark ≠ []) : Unmarked (mark ++ digits) digits
  | plain (absent : ∀ mark ∈ marks, mark <+: digits → mark = []) : Unmarked digits digits

/-- The parts of a text between its commas, without the white space at the ends
of the text and of each part. -/
inductive Parts (source : List Char) : List (List Char) → Prop where
  | intro (trimmed : Text.Trims source whole) (cut : Text.Splits ',' whole pieces)
      (each : List.Forall₂ Text.Trims pieces parts) : Parts source parts

/-- The texts that are read as a colour. -/
inductive Denotes (color : Rgb) (source : List Char) : Prop where
  | hexadecimal (trimmed : Text.Trims source whole) (plain : ',' ∉ whole)
      (unmarked : Unmarked whole digits) (size : digits.length = 6)
      (written : WritesNatural 16 color.number digits)
  | decimal (parts : Parts source [r, g, b]) (red : WritesInteger color.red.toNat r)
      (green : WritesInteger color.green.toNat g) (blue : WritesInteger color.blue.toNat b)

section Hexadecimal

variable {whole digits : List Char}

theorem unmarked_iff : Unmarked whole digits ↔ afterMark whole = digits := by
  constructor
  · intro unmarked
    cases unmarked with
    | marked known nonempty =>
        rcases mem_marks.mp known with rfl | rfl | rfl | rfl
        · exact absurd rfl nonempty
        · rfl
        · rfl
        · rfl
    | plain absent =>
        unfold afterMark
        split
        case h_1 rest => cases absent ['#'] (by decide) (List.prefix_append _ rest)
        case h_2 rest => cases absent ['0', 'x'] (by decide) (List.prefix_append _ rest)
        case h_3 rest => cases absent ['0', 'X'] (by decide) (List.prefix_append _ rest)
        case h_4 => rfl
  · rintro rfl
    have hash : ['#'] ∈ marks := by decide
    have lower : ['0', 'x'] ∈ marks := by decide
    have upper : ['0', 'X'] ∈ marks := by decide
    unfold afterMark
    split
    case h_1 => exact .marked hash (List.cons_ne_nil _ _)
    case h_2 => exact .marked lower (List.cons_ne_nil _ _)
    case h_3 => exact .marked upper (List.cons_ne_nil _ _)
    case h_4 hash lower upper =>
      refine .plain fun mark known found => ?_
      obtain ⟨rest, rfl⟩ := found
      rcases mem_marks.mp known with rfl | rfl | rfl | rfl
      · rfl
      · exact absurd rfl (hash rest)
      · exact absurd rfl (lower rest)
      · exact absurd rfl (upper rest)

theorem octets_of_digits {values : List Nat} (each : List.Forall₂ (IsDigit 16) values digits) :
    Text.octets digits = digits.length := by
  induction each with
  | nil => rfl
  | cons known _ ih =>
      rw [Text.octets_cons, utf8Size_of_visible (known.visible (by decide)).2, ih,
        List.length_cons, Nat.add_comm]

theorem octets_of_writes {number : Nat} (written : WritesNatural 16 number digits) :
    Text.octets digits = digits.length := by
  cases written with
  | plain written =>
      obtain ⟨_, each⟩ := written
      exact octets_of_digits each
  | plus written =>
      obtain ⟨_, each⟩ := written
      rw [Text.octets_cons, octets_of_digits each, List.length_cons, Nat.add_comm]
      rfl

theorem lt_of_writes {number : Nat} (written : WritesNatural 16 number digits)
    (size : digits.length = 6) : number < 16777216 := by
  have few {number : Nat} {digits : List Char} (written : WritesNumber 16 number digits)
      (size : digits.length ≤ 6) : number < 16777216 :=
    Nat.lt_of_lt_of_le (written.lt_pow (by decide)) (Nat.pow_le_pow_right (by decide) size)
  cases written with
  | plain written => exact few written (Nat.le_of_eq size)
  | plus written => exact few written (Nat.le_of_lt (Nat.lt_of_succ_le (Nat.le_of_eq size)))

theorem afterMark_append {mark r rest : List Char} {level : UInt8} (marked : mark ∈ marks)
    (red : WritesPair level r) : afterMark (mark ++ (r ++ rest)) = r ++ rest := by
  rcases mem_marks.mp marked with rfl | rfl | rfl | rfl
  · obtain @⟨a, i, b, j, high, low, _⟩ := red
    have first := hex_visible high
    have second := hexValue?_eq_some low
    have plain : a ≠ '#' := ne_of_visible first.1 (by decide)
    have lower : b ≠ 'x' := by
      rintro rfl
      simp at second
    have upper : b ≠ 'X' := by
      rintro rfl
      simp at second
    simp [afterMark, plain, lower, upper]
  · rfl
  · rfl
  · rfl

theorem WritesPair.length_eq {level : UInt8} {text : List Char} (pair : WritesPair level text) :
    text.length = 2 := by
  cases pair
  rfl

theorem writesNumber_of_pairs {color : Rgb} {r g b : List Char} (red : WritesPair color.red r)
    (green : WritesPair color.green g) (blue : WritesPair color.blue b) :
    WritesNumber 16 color.number (r ++ (g ++ b)) := by
  obtain @⟨c₁, i₁, c₂, i₂, high₁, low₁, redValue⟩ := red
  obtain @⟨c₃, i₃, c₄, i₄, high₂, low₂, greenValue⟩ := green
  obtain @⟨c₅, i₅, c₆, i₆, high₃, low₃, blueValue⟩ := blue
  have digit {c : Char} {value : Nat} (known : hexValue? c = some value) : IsDigit 16 value c :=
    (digitValue?_eq_some_iff (by decide)).mp (digitValue?_hex known)
  have each : List.Forall₂ (IsDigit 16) [i₁, i₂, i₃, i₄, i₅, i₆] [c₁, c₂, c₃, c₄, c₅, c₆] :=
    .cons (digit high₁) (.cons (digit low₁) (.cons (digit high₂) (.cons (digit low₂)
      (.cons (digit high₃) (.cons (digit low₃) .nil)))))
  have value : Nat.ofDigits 16 [i₁, i₂, i₃, i₄, i₅, i₆].reverse = color.number := by
    simp only [number, redValue, greenValue, blueValue, List.reverse_cons, List.reverse_nil,
      List.nil_append, List.cons_append, Nat.ofDigits_cons, Nat.ofDigits_nil]
    omega
  exact value ▸ .intro (List.cons_ne_nil _ _) each

theorem readHex_of_writes {color : Rgb} (unmarked : Unmarked whole digits)
    (size : digits.length = 6) (written : WritesNatural 16 color.number digits) :
    readHex whole = .ok color := by
  have read : readNatural 16 maxWord32 digits = .ok color.number := by
    have bound := color.number_lt
    exact (readNatural_eq_ok_iff (by decide) (by decide)).mpr
      ⟨written, by simp only [maxWord32]; omega⟩
  simp only [readHex, unmarked_iff.mp unmarked, octets_of_writes written, size, read,
    ofWord_number]
  rfl

theorem readHex_cases (whole : List Char) :
    (∃ (color : Rgb) (digits : List Char), Unmarked whole digits ∧ digits.length = 6 ∧
        WritesNatural 16 color.number digits) ∨
      ∃ reason, readHex whole = .error (.spelling reason) := by
  by_cases size : Text.octets (afterMark whole) = 6
  · cases read : readNatural 16 maxWord32 (afterMark whole) with
    | error reason =>
        refine .inr ⟨.numeral (String.ofList whole) reason, ?_⟩
        simp only [readHex, size, read]
        rfl
    | ok number =>
        obtain ⟨written, _⟩ := (readNatural_eq_ok_iff (by decide) (by decide)).mp read
        -- The octets that were counted are digits and a sign, so no other number is left.
        rw [octets_of_writes written] at size
        obtain ⟨color, rfl⟩ := exists_number_eq (lt_of_writes written size)
        exact .inl ⟨color, afterMark whole, unmarked_iff.mpr rfl, size, written⟩
  · exact .inr ⟨.notSixDigits (String.ofList whole), if_pos size⟩

end Hexadecimal

structure Integer64 (value : Int) (part : List Char) : Prop where
  written : WritesInteger value part
  least : -9223372036854775808 ≤ value
  greatest : value ≤ 9223372036854775807

/-- The first of three numbers that is no level. -/
inductive FirstOutside (red green blue : Int) : Channel → Int → Prop where
  | red (outside : ¬ (0 ≤ red ∧ red ≤ 255)) : FirstOutside red green blue .red red
  | green (inside : 0 ≤ red ∧ red ≤ 255) (outside : ¬ (0 ≤ green ∧ green ≤ 255)) :
      FirstOutside red green blue .green green
  | blue (inside : 0 ≤ red ∧ red ≤ 255) (inside' : 0 ≤ green ∧ green ≤ 255)
      (outside : ¬ (0 ≤ blue ∧ blue ≤ 255)) : FirstOutside red green blue .blue blue

section Decimal

variable {source part r g b : List Char} {red green blue : Int}

theorem readLevel_of_integer64 {value : Int} (known : Integer64 value part) :
    readLevel part = .ok value := by
  have read : readInteger maxInteger64 part = .ok value :=
    readInteger_eq_ok_iff.mpr ⟨known.written, known.least, known.greatest⟩
  rw [readLevel, read]

theorem readLevel_cases (part : List Char) :
    (∃ value, readLevel part = .ok value ∧ Integer64 value part) ∨
      (∀ value, ¬ Integer64 value part) ∧
        ∃ reason, readLevel part = .error (.spelling (.numeral (String.ofList part) reason)) := by
  cases read : readInteger maxInteger64 part with
  | ok value =>
      obtain ⟨written, least, greatest⟩ := readInteger_eq_ok_iff.mp read
      have known : Integer64 value part := ⟨written, least, greatest⟩
      exact .inl ⟨value, readLevel_of_integer64 known, known⟩
  | error reason =>
      have misread :
          readLevel part = .error (.spelling (.numeral (String.ofList part) reason)) := by
        rw [readLevel, read]
      refine .inr ⟨fun value known => ?_, reason, misread⟩
      rw [readLevel_of_integer64 known] at misread
      cases misread

theorem level_inside (which : Channel) {value : Int} (inside : 0 ≤ value ∧ value ≤ 255) :
    ∃ level : UInt8, value = level.toNat ∧ Rgb.level which value = .ok level := by
  refine ⟨.ofNat value.toNat, ?_, if_pos inside⟩
  simp only [UInt8.toNat_ofNat', Nat.reducePow]
  omega

theorem level_outside (which : Channel) {value : Int} (outside : ¬ (0 ≤ value ∧ value ≤ 255)) :
    level which value = .error (.channel which value) :=
  if_neg outside

theorem level_toNat (which : Channel) (value : UInt8) : level which value.toNat = .ok value := by
  have bound := value.toNat_lt
  rw [level, if_pos (by omega), Int.toNat_natCast, UInt8.ofNat_toNat]

theorem ofChannels_toNat (color : Rgb) :
    ofChannels color.red.toNat color.green.toNat color.blue.toNat = .ok color := by
  simp only [ofChannels, level_toNat]
  rfl

theorem ofChannels_of_firstOutside {which : Channel} {value : Int}
    (first : FirstOutside red green blue which value) :
    ofChannels red green blue = .error (.channel which value) := by
  unfold ofChannels
  cases first with
  | red outside =>
      rw [level_outside _ outside]
      rfl
  | green inside outside =>
      obtain ⟨_, _, fits⟩ := level_inside .red inside
      rw [fits, level_outside _ outside]
      rfl
  | blue inside inside' outside =>
      obtain ⟨_, _, fits⟩ := level_inside .red inside
      obtain ⟨_, _, fits'⟩ := level_inside .green inside'
      rw [fits, fits', level_outside _ outside]
      rfl

theorem ofChannels_cases (red green blue : Int) :
    (∃ color : Rgb, red = color.red.toNat ∧ green = color.green.toNat ∧ blue = color.blue.toNat) ∨
      ∃ which value, FirstOutside red green blue which value := by
  by_cases redInside : 0 ≤ red ∧ red ≤ 255
  · by_cases greenInside : 0 ≤ green ∧ green ≤ 255
    · by_cases blueInside : 0 ≤ blue ∧ blue ≤ 255
      · obtain ⟨r, redSame, _⟩ := level_inside .red redInside
        obtain ⟨g, greenSame, _⟩ := level_inside .green greenInside
        obtain ⟨b, blueSame, _⟩ := level_inside .blue blueInside
        exact .inl ⟨⟨r, g, b⟩, redSame, greenSame, blueSame⟩
      · exact .inr ⟨_, _, .blue redInside greenInside blueInside⟩
    · exact .inr ⟨_, _, .green redInside greenInside⟩
  · exact .inr ⟨_, _, .red redInside⟩

theorem exists_firstOutside_iff : (∃ which value, FirstOutside red green blue which value) ↔
    ∃ value ∈ [red, green, blue], ¬ (0 ≤ value ∧ value ≤ 255) := by
  constructor
  · rintro ⟨which, value, first⟩
    refine ⟨value, ?_⟩
    cases first with
    | red outside => exact ⟨by simp, outside⟩
    | green _ outside => exact ⟨by simp, outside⟩
    | blue _ _ outside => exact ⟨by simp, outside⟩
  · rintro ⟨value, member, outside⟩
    rcases ofChannels_cases red green blue with ⟨color, rfl, rfl, rfl⟩ | found
    · have within (level : UInt8) : 0 ≤ (level.toNat : Int) ∧ (level.toNat : Int) ≤ 255 := by
        have bound := level.toNat_lt
        omega
      simp only [List.mem_cons, List.not_mem_nil, or_false] at member
      rcases member with rfl | rfl | rfl
      · exact absurd (within _) outside
      · exact absurd (within _) outside
      · exact absurd (within _) outside
    · exact found

theorem parts_iff {parts : List (List Char)} :
    Parts source parts ↔ (Text.pieces ',' (Text.trim source)).map Text.trim = parts := by
  have trims (pieces parts : List (List Char)) :
      List.Forall₂ Text.Trims pieces parts ↔ pieces.map Text.trim = parts := by
    have same : Text.Trims = fun text middle => Text.trim text = middle := by
      funext text middle
      exact propext Text.trims_iff
    rw [same, ← List.forall₂_map_left_iff, List.forall₂_eq_eq_eq]
  constructor
  · rintro ⟨trimmed, cut, each⟩
    rw [Text.trims_iff.mp trimmed, Text.splits_iff.mp cut, (trims _ _).mp each]
  · intro same
    exact .intro (Text.trims_iff.mpr rfl) (Text.splits_iff.mpr rfl) ((trims _ _).mpr same)

theorem WritesLevel.writesInteger {level : UInt8} (written : WritesLevel level part) :
    WritesInteger level.toNat part :=
  written.value ▸ .plain (writesNumber_of_isDigit written.nonempty written.digits)

theorem parts_of_levels {color : Rgb} {i j k l : List Char} (red : WritesLevel color.red r)
    (green : WritesLevel color.green g) (blue : WritesLevel color.blue b) (afterRed : Spaces i)
    (beforeGreen : Spaces j) (afterGreen : Spaces k) (beforeBlue : Spaces l) :
    Parts (r ++ (i ++ ',' :: (j ++ (g ++ (k ++ ',' :: (l ++ b)))))) [r, g, b] := by
  have seen : Text.isBlank ',' = false := by decide
  have spelled : Spells color (r ++ (i ++ ',' :: (j ++ (g ++ (k ++ ',' :: (l ++ b)))))) :=
    .decimal red green blue afterRed beforeGreen afterGreen beforeBlue
  have cut : Text.Splits ',' (r ++ (i ++ ',' :: (j ++ (g ++ (k ++ ',' :: (l ++ b))))))
      [r ++ i, j ++ g ++ k, l ++ b] := by
    refine ⟨List.cons_ne_nil _ _, ?_, by simp [List.intercalate_cons_cons]⟩
    simp [red.not_mem, green.not_mem, blue.not_mem, afterRed.not_mem seen,
      beforeGreen.not_mem seen, afterGreen.not_mem seen, beforeBlue.not_mem seen]
  have trims {before middle after : List Char} (left : Spaces before) (solid : Text.Solid middle)
      (right : Spaces after) : Text.Trims (before ++ middle ++ after) middle :=
    .solid (fun c member => (left c member).1) solid fun c member => (right c member).1
  have nothing : Spaces [] := nofun
  have last := trims beforeBlue blue.solid nothing
  rw [List.append_nil] at last
  exact .intro (Text.trims_iff.mpr spelled.solid.trim_eq) cut
    (.cons (trims nothing red.solid afterRed) (.cons (trims beforeGreen green.solid afterGreen)
      (.cons last .nil)))

theorem Parts.comma_mem (parts : Parts source [r, g, b]) : ',' ∈ Text.trim source := by
  have cut := parts_iff.mp parts
  by_contra absent
  rw [Text.pieces_of_not_mem absent] at cut
  cases cut

/-- Three parts have a comma between them, so they are read as three numbers. -/
theorem ofChars_of_parts (parts : Parts source [r, g, b]) :
    ofChars source = (do
      let red ← readLevel r
      let green ← readLevel g
      let blue ← readLevel b
      (ofChannels red green blue).mapError .shape) := by
  simp only [ofChars, if_pos parts.comma_mem, readTriple, parts_iff.mp parts]

theorem ofChars_of_integers (parts : Parts source [r, g, b]) (redKnown : Integer64 red r)
    (greenKnown : Integer64 green g) (blueKnown : Integer64 blue b) :
    ofChars source = (ofChannels red green blue).mapError .shape := by
  rw [ofChars_of_parts parts, readLevel_of_integer64 redKnown, readLevel_of_integer64 greenKnown,
    readLevel_of_integer64 blueKnown]
  rfl

/-- A text with other than three parts is refused before any of them is read. -/
theorem exists_misread_of_not_parts (comma : ',' ∈ Text.trim source)
    (other : ∀ r g b, ¬ Parts source [r, g, b]) :
    ∃ reason, ofChars source = .error (.spelling reason) := by
  refine ⟨.notTriple (String.ofList (Text.trim source)), ?_⟩
  simp only [ofChars, if_pos comma]
  unfold readTriple
  split
  case h_1 r g b cut => exact absurd (parts_iff.mpr cut) (other r g b)
  case h_2 => rfl

theorem exists_misread_of_parts (parts : Parts source [r, g, b])
    (misspelled : ¬ ∃ red green blue, Integer64 red r ∧ Integer64 green g ∧ Integer64 blue b) :
    ∃ reason, ofChars source = .error (.spelling reason) := by
  rw [ofChars_of_parts parts]
  rcases readLevel_cases r with ⟨red, redRead, redKnown⟩ | ⟨_, reason, misread⟩
  · rcases readLevel_cases g with ⟨green, greenRead, greenKnown⟩ | ⟨_, reason, misread⟩
    · rcases readLevel_cases b with ⟨blue, _, blueKnown⟩ | ⟨_, reason, misread⟩
      · exact absurd ⟨red, green, blue, redKnown, greenKnown, blueKnown⟩ misspelled
      · rw [redRead, greenRead, misread]
        exact ⟨_, rfl⟩
    · rw [redRead, misread]
      exact ⟨_, rfl⟩
  · rw [misread]
    exact ⟨_, rfl⟩

end Decimal

/-- Three numbers of which one is no level, and the first such. -/
inductive Exceeds (source : List Char) (which : Channel) (value : Int) : Prop where
  | intro (parts : Parts source [r, g, b]) (red : Integer64 i r) (green : Integer64 j g)
      (blue : Integer64 k b) (first : FirstOutside i j k which value)

section Outcome

variable {source : List Char}

theorem ofChars_of_denotes {color : Rgb} (denoted : Denotes color source) :
    ofChars source = .ok color := by
  cases denoted with
  | hexadecimal trimmed plain unmarked size written =>
      simp only [ofChars, Text.trims_iff.mp trimmed, if_neg plain]
      exact readHex_of_writes unmarked size written
  | decimal parts red green blue =>
      have known {level : UInt8} {part : List Char} (written : WritesInteger level.toNat part) :
          Integer64 level.toNat part := by
        have bound := level.toNat_lt
        exact ⟨written, by omega, by omega⟩
      rw [ofChars_of_integers parts (known red) (known green) (known blue), ofChannels_toNat]
      rfl

theorem ofChars_of_exceeds {which : Channel} {value : Int} (beyond : Exceeds source which value) :
    ofChars source = .error (.shape (.channel which value)) := by
  obtain ⟨parts, red, green, blue, first⟩ := beyond
  rw [ofChars_of_integers parts red green blue, ofChannels_of_firstOutside first]
  rfl

theorem Spells.denotes {color : Rgb} (spelled : Spells color source) : Denotes color source := by
  have trimmed : Text.Trims source source := Text.trims_iff.mpr spelled.solid.trim_eq
  cases spelled with
  | @hexadecimal mark r g b marked red green blue =>
      have plain : ',' ∉ mark ++ (r ++ (g ++ b)) := by
        have unmarked : ∀ mark ∈ marks, ',' ∉ mark := by decide
        simp [unmarked mark marked, red.not_mem, green.not_mem, blue.not_mem]
      have size : (r ++ (g ++ b)).length = 6 := by
        simp [red.length_eq, green.length_eq, blue.length_eq]
      exact .hexadecimal trimmed plain (unmarked_iff.mpr (afterMark_append marked red)) size
        (.plain (writesNumber_of_pairs red green blue))
  | decimal red green blue afterRed beforeGreen afterGreen beforeBlue =>
      exact .decimal
        (parts_of_levels red green blue afterRed beforeGreen afterGreen beforeBlue)
        red.writesInteger green.writesInteger blue.writesInteger

theorem ofChars_of_spells {color : Rgb} (spelled : Spells color source) :
    ofChars source = .ok color :=
  ofChars_of_denotes spelled.denotes

theorem ofChars_cases (source : List Char) :
    (∃ color, Denotes color source) ∨ (∃ which value, Exceeds source which value) ∨
      ∃ reason, ofChars source = .error (.spelling reason) := by
  by_cases comma : ',' ∈ Text.trim source
  case neg =>
    rcases readHex_cases (Text.trim source) with
      ⟨color, digits, unmarked, size, written⟩ | ⟨reason, misread⟩
    · exact .inl ⟨color, .hexadecimal (Text.trims_iff.mpr rfl) comma unmarked size written⟩
    · refine .inr (.inr ⟨reason, ?_⟩)
      simp only [ofChars, if_neg comma, misread]
  case pos =>
    by_cases three : ∃ r g b, Parts source [r, g, b]
    case neg =>
      have other (r g b : List Char) : ¬ Parts source [r, g, b] :=
        fun parts => three ⟨r, g, b, parts⟩
      exact .inr (.inr (exists_misread_of_not_parts comma other))
    case pos =>
      obtain ⟨r, g, b, parts⟩ := three
      by_cases known : ∃ red green blue, Integer64 red r ∧ Integer64 green g ∧ Integer64 blue b
      case neg => exact .inr (.inr (exists_misread_of_parts parts known))
      case pos =>
        obtain ⟨red, green, blue, redKnown, greenKnown, blueKnown⟩ := known
        rcases ofChannels_cases red green blue with
          ⟨color, rfl, rfl, rfl⟩ | ⟨which, value, first⟩
        · exact .inl ⟨color,
            .decimal parts redKnown.written greenKnown.written blueKnown.written⟩
        · exact .inr (.inl ⟨which, value, .intro parts redKnown greenKnown blueKnown first⟩)

end Outcome

/-- A text is read as a colour exactly when it denotes the colour. -/
theorem ofText_eq_ok_iff_denotes (source : String) (color : Rgb) :
    ofText source = .ok color ↔ Denotes color source.toList := by
  constructor
  · intro read
    rcases ofChars_cases source.toList with ⟨other, denoted⟩ | ⟨which, value, beyond⟩ |
      ⟨reason, misread⟩
    · have same := (ofChars_of_denotes denoted).symm.trans read
      cases same
      exact denoted
    · have refused := (ofChars_of_exceeds beyond).symm.trans read
      cases refused
    · have refused := misread.symm.trans read
      cases refused
  · exact ofChars_of_denotes

end BandedPalette.Rgb
