import BandedPalette.Proofs.Text.Layout
namespace BandedPalette.Text

/-- A text and what is left of it without the white space at its ends.  White
space alone leaves nothing. -/
inductive Trims : List Char → List Char → Prop where
  | blank (all : ∀ c ∈ text, isBlank c = true) : Trims text []
  | solid (left : ∀ c ∈ before, isBlank c = true) (solid : Solid middle)
      (right : ∀ c ∈ after, isBlank c = true) : Trims (before ++ middle ++ after) middle

section Trim

variable {text middle : List Char}

theorem trim_of_blank (all : ∀ c ∈ text, isBlank c = true) : trim text = [] := by
  rw [← List.append_nil text, trim_append_left all, trim_nil]

theorem Trims.trim_eq (trims : Trims text middle) : trim text = middle := by
  cases trims with
  | blank all => exact trim_of_blank all
  | solid left solid right => exact solid.trim_between left right

theorem Trims.mem_iff {c : Char} (trims : Trims text middle) (seen : isBlank c = false) :
    c ∈ text ↔ c ∈ middle := by
  cases trims with
  | blank all => simp [not_mem_of_blank all seen]
  | solid left _ right => simp [not_mem_of_blank left seen, not_mem_of_blank right seen]

theorem exists_trims (text : List Char) : ∃ middle, Trims text middle := by
  induction text with
  | nil => exact ⟨[], .blank (by simp)⟩
  | cons c rest ih =>
      obtain ⟨middle, trims⟩ := ih
      cases seen : isBlank c with
      | true =>
          cases trims with
          | blank all => exact ⟨[], .blank (by simpa [seen] using all)⟩
          | @solid before _ after left solid right =>
              have left : ∀ d ∈ c :: before, isBlank d = true := by simpa [seen] using left
              exact ⟨middle, .solid left solid right⟩
      | false =>
          have nothing : ∀ d ∈ ([] : List Char), isBlank d = true := by simp
          cases trims with
          | blank all => exact ⟨[c], .solid nothing (.single seen) all⟩
          | @solid before _ after left solid right =>
              have whole := (Solid.single seen).between solid before
              exact ⟨_, .solid nothing whole right⟩

theorem trims_iff : Trims text middle ↔ trim text = middle := by
  constructor
  · exact Trims.trim_eq
  · rintro rfl
    obtain ⟨middle, trims⟩ := exists_trims text
    rwa [trims.trim_eq]

theorem trim_trim (text : List Char) : trim (trim text) = trim text := by
  obtain ⟨middle, trims⟩ := exists_trims text
  rw [trims.trim_eq]
  cases trims with
  | blank => rfl
  | solid _ solid _ => exact solid.trim_eq

theorem exists_trim_append {front : List Char} (solid : Solid front) (text : List Char) :
    ∃ back, back <+: text ∧ trim (front ++ text) = front ++ back := by
  obtain ⟨middle, trims⟩ := exists_trims text
  cases trims with
  | blank all =>
      refine ⟨[], List.nil_prefix, ?_⟩
      rw [trim_append_right all, solid.trim_eq, List.append_nil]
  | @solid before _ after _ inner right =>
      refine ⟨before ++ middle, List.prefix_append _ _, ?_⟩
      have whole := solid.between inner before
      rw [← List.append_assoc, trim_append_right right, whole.trim_eq]

end Trim

/-- A text and its pieces between the occurrences of a mark. -/
structure Splits (mark : Char) (text : List Char) (pieces : List (List Char)) : Prop where
  nonempty : pieces ≠ []
  absent : ∀ piece ∈ pieces, mark ∉ piece
  joined : [mark].intercalate pieces = text

section Splits

variable {mark : Char} {text : List Char} {pieces : List (List Char)}

theorem exists_splits (mark : Char) (text : List Char) : ∃ pieces, Splits mark text pieces := by
  induction text with
  | nil => exact ⟨[[]], by simp, by simp, List.intercalate_singleton⟩
  | cons c rest ih =>
      obtain ⟨pieces, cut⟩ := ih
      obtain ⟨piece, others, rfl⟩ := List.exists_cons_of_ne_nil cut.nonempty
      by_cases found : c = mark
      · subst found
        refine ⟨[] :: piece :: others, by simp, by simpa using cut.absent, ?_⟩
        rw [List.intercalate_cons_cons, cut.joined]
        rfl
      · have inside : mark ∉ c :: piece := by
          simpa [Ne.symm found] using cut.absent piece (by simp)
        refine ⟨(c :: piece) :: others, by simp, ?_, ?_⟩
        · simpa [inside] using fun other member => cut.absent other (by simp [member])
        · rw [← cut.joined]
          cases others with
          | nil => simp
          | cons second others => simp [List.intercalate_cons_cons]

theorem splits_iff : Splits mark text pieces ↔ Text.pieces mark text = pieces := by
  have unique {pieces : List (List Char)} (cut : Splits mark text pieces) :
      Text.pieces mark text = pieces := by
    rw [← cut.joined, pieces_intercalate cut.nonempty cut.absent]
  constructor
  · exact unique
  · rintro rfl
    obtain ⟨pieces, cut⟩ := exists_splits mark text
    rwa [unique cut]

end Splits

/-- A text and its lines.  A line feed ends a line, and so does a carriage return
with a line feed, but after the last line end there is no empty line. -/
inductive Lines : List Char → List (List Char) → Prop where
  | none : Lines [] []
  | last (inside : '\n' ∉ line) (nonempty : line ≠ []) : Lines line [line]
  | feed (inside : '\n' ∉ line) (plain : ¬ ['\r'] <:+ line) (rest : Lines text others) :
      Lines (line ++ '\n' :: text) (line :: others)
  | returnFeed (inside : '\n' ∉ line) (rest : Lines text others) :
      Lines (line ++ '\r' :: '\n' :: text) (line :: others)

section Lines

variable {text : List Char} {found : List (List Char)}

theorem withoutReturn_append (text : List Char) : withoutReturn (text ++ ['\r']) = text := by
  induction text with
  | nil => rfl
  | cons c rest ih =>
      rw [List.cons_append, withoutReturn, ih]
      simp

theorem withoutReturn_of_not_suffix (plain : ¬ ['\r'] <:+ text) : withoutReturn text = text := by
  fun_induction withoutReturn text with
  | case1 => rfl
  | case2 => exact absurd List.suffix_rfl plain
  | case3 c rest _ ih => rw [ih fun ends => plain (ends.trans (List.suffix_cons c rest))]

theorem Lines.lines_eq (cut : Lines text found) : lines text = found := by
  induction cut with
  | none => rfl
  | last inside nonempty => exact lines_of_not_mem inside nonempty
  | feed inside plain _ ih => rw [lines_append inside, withoutReturn_of_not_suffix plain, ih]
  | @returnFeed line text _ inside _ ih =>
      have inside : '\n' ∉ line ++ ['\r'] := by simpa using inside
      have shape : line ++ '\r' :: '\n' :: text = line ++ ['\r'] ++ '\n' :: text := by simp
      rw [shape, lines_append inside, withoutReturn_append, ih]

theorem exists_lines (text : List Char) : ∃ found, Lines text found := by
  induction text with
  | nil => exact ⟨[], .none⟩
  | cons c rest ih =>
      obtain ⟨found, cut⟩ := ih
      have empty : '\n' ∉ ([] : List Char) := by simp
      by_cases ends : c = '\n'
      · subst ends
        exact ⟨[] :: found, .feed empty (by simp) cut⟩
      · have inside {line : List Char} (later : '\n' ∉ line) : '\n' ∉ c :: line := by
          simp [later, Ne.symm ends]
        cases cut with
        | none => exact ⟨[[c]], .last (inside empty) (by simp)⟩
        | last later _ => exact ⟨[c :: rest], .last (inside later) (by simp)⟩
        | @returnFeed line text others later cut =>
            exact ⟨(c :: line) :: others, .returnFeed (inside later) cut⟩
        | @feed line text others later plain cut =>
            -- In front of an empty line a carriage return belongs to the line end.
            by_cases returns : c = '\r' ∧ line = []
            · obtain ⟨rfl, rfl⟩ := returns
              exact ⟨[] :: others, .returnFeed empty cut⟩
            · have plain : ¬ ['\r'] <:+ c :: line := by
                intro suffix
                rcases List.suffix_cons_iff.mp suffix with whole | suffix
                · cases whole
                  exact returns ⟨rfl, rfl⟩
                · exact plain suffix
              exact ⟨(c :: line) :: others, .feed (inside later) plain cut⟩

theorem lines_iff : Lines text found ↔ lines text = found := by
  constructor
  · exact Lines.lines_eq
  · rintro rfl
    obtain ⟨found, cut⟩ := exists_lines text
    rwa [cut.lines_eq]

end Lines

end BandedPalette.Text
