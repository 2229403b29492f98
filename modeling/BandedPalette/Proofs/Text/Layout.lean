import BandedPalette.Text.Blank
import BandedPalette.Text.Lines
namespace BandedPalette.Text

section Trim

variable {before text after : List Char}

theorem not_mem_of_blank {c : Char} (blank : ∀ c ∈ text, isBlank c = true)
    (seen : isBlank c = false) : c ∉ text := by
  intro member
  rw [blank c member] at seen
  cases seen

theorem trim_append_left (blank : ∀ c ∈ before, isBlank c = true) :
    trim (before ++ text) = trim text := by
  rw [trim, trim, List.dropWhile_append_of_pos blank]

theorem trim_append_right (blank : ∀ c ∈ after, isBlank c = true) :
    trim (text ++ after) = trim text := by
  have reversed : ∀ c ∈ after.reverse, isBlank c = true := fun c member =>
    blank c (List.mem_reverse.mp member)
  rw [trim, trim, List.dropWhile_append]
  split
  · rename_i nothing
    have gone : after.dropWhile isBlank = [] := by
      have dropped : (after ++ []).dropWhile isBlank = [].dropWhile isBlank :=
        List.dropWhile_append_of_pos blank
      simpa using dropped
    rw [gone, List.isEmpty_iff.mp nothing]
  · rw [List.reverse_append, List.dropWhile_append_of_pos reversed]

structure Solid (text : List Char) : Prop where
  first : ∃ c rest, text = c :: rest ∧ isBlank c = false
  last : ∃ front c, text = front ++ [c] ∧ isBlank c = false

theorem Solid.ne_nil (solid : Solid text) : text ≠ [] := by
  obtain ⟨c, rest, rfl, _⟩ := solid.first
  exact List.cons_ne_nil c rest

theorem Solid.single {c : Char} (seen : isBlank c = false) : Solid [c] :=
  ⟨⟨c, [], rfl, seen⟩, ⟨[], c, rfl, seen⟩⟩

theorem Solid.cons {c : Char} (seen : isBlank c = false) (solid : Solid text) :
    Solid (c :: text) := by
  obtain ⟨front, d, rfl, last⟩ := solid.last
  exact ⟨⟨c, _, rfl, seen⟩, ⟨c :: front, d, rfl, last⟩⟩

theorem Solid.between (left : Solid before) (right : Solid after) (text : List Char) :
    Solid (before ++ (text ++ after)) := by
  obtain ⟨c, rest, rfl, first⟩ := left.first
  obtain ⟨front, d, rfl, last⟩ := right.last
  exact ⟨⟨c, _, rfl, first⟩, ⟨c :: rest ++ (text ++ front), d, by simp, last⟩⟩

theorem Solid.trim_eq (solid : Solid text) : trim text = text := by
  have front : text.dropWhile isBlank = text := by
    obtain ⟨c, rest, rfl, seen⟩ := solid.first
    exact List.dropWhile_cons_of_neg (by simp [seen])
  have back : text.reverse.dropWhile isBlank = text.reverse := by
    obtain ⟨rest, c, rfl, seen⟩ := solid.last
    rw [List.reverse_append]
    exact List.dropWhile_cons_of_neg (by simp [seen])
  rw [trim, front, back, List.reverse_reverse]

/-- A solid text is what is left when the white space around it is trimmed. -/
theorem Solid.trim_between (solid : Solid text) (left : ∀ c ∈ before, isBlank c = true)
    (right : ∀ c ∈ after, isBlank c = true) : trim (before ++ text ++ after) = text := by
  rw [trim_append_right right, trim_append_left left, solid.trim_eq]

end Trim

section Pieces

variable {mark : Char} {text rest : List Char}

theorem pieces_of_not_mem (absent : mark ∉ text) : pieces mark text = [text] := by
  induction text with
  | nil => rfl
  | cons c others ih =>
      have different := List.ne_of_not_mem_cons absent
      have later := List.not_mem_of_not_mem_cons absent
      rw [pieces, if_neg (Ne.symm different), ih later]

theorem pieces_append (absent : mark ∉ text) :
    pieces mark (text ++ mark :: rest) = text :: pieces mark rest := by
  induction text with
  | nil => simp [pieces]
  | cons c others ih =>
      have different := List.ne_of_not_mem_cons absent
      have later := List.not_mem_of_not_mem_cons absent
      rw [List.cons_append, pieces, if_neg (Ne.symm different), ih later]

/-- Texts put together with a mark that stands in none of them. -/
theorem pieces_intercalate {texts : List (List Char)} (nonempty : texts ≠ [])
    (absent : ∀ text ∈ texts, mark ∉ text) : pieces mark ([mark].intercalate texts) = texts := by
  induction texts with
  | nil => exact absurd rfl nonempty
  | cons first others ih =>
      have front := absent first (by simp)
      cases others with
      | nil => rw [List.intercalate_singleton, pieces_of_not_mem front]
      | cons second others =>
          have later := ih (by simp) fun text member => absent text (by simp [member])
          rw [List.intercalate_cons_cons, List.append_assoc, List.singleton_append,
            pieces_append front, later]

end Pieces

/-- A line without the carriage return that belongs to its end. -/
def withoutReturn : List Char → List Char
  | [] => []
  | ['\r'] => []
  | c :: rest => c :: withoutReturn rest

theorem withoutReturn_of_not_mem {text : List Char} (absent : '\r' ∉ text) :
    withoutReturn text = text := by
  fun_induction withoutReturn text with
  | case1 => rfl
  | case2 => exact absurd (List.mem_singleton_self _) absent
  | case3 c rest _ ih => rw [ih (List.not_mem_of_not_mem_cons absent)]

theorem trim_withoutReturn (text : List Char) : trim (withoutReturn text) = trim text := by
  have whole : withoutReturn text = text ∨ withoutReturn text ++ ['\r'] = text := by
    fun_induction withoutReturn text with
    | case1 => exact .inl rfl
    | case2 => exact .inr rfl
    | case3 c rest _ ih =>
        rcases ih with same | same
        · exact .inl (congrArg _ same)
        · exact .inr (congrArg _ same)
  rcases whole with same | same
  · rw [same]
  · have blank : ∀ c ∈ ['\r'], isBlank c = true := by
      intro c member
      rw [List.mem_singleton.mp member]
      rfl
    rw [← trim_append_right blank, same]

section Lines

variable {text rest : List Char}

/-- A character that is not part of a line end goes to the front of its line. -/
theorem lines_cons {c : Char} {line : List Char} {others : List (List Char)} (inside : c ≠ '\n')
    (apart : c = '\r' → rest.head? ≠ some '\n') (cut : lines rest = line :: others) :
    lines (c :: rest) = (c :: line) :: others := by
  rw [lines, cut]
  · exact inside
  · rintro tail returns rfl
    exact apart returns rfl

theorem lines_of_not_mem (absent : '\n' ∉ text) (nonempty : text ≠ []) : lines text = [text] := by
  induction text with
  | nil => exact absurd rfl nonempty
  | cons c others ih =>
      have inside := List.ne_of_not_mem_cons absent
      have later := List.not_mem_of_not_mem_cons absent
      have apart : c = '\r' → others.head? ≠ some '\n' := fun _ front =>
        later (List.mem_of_mem_head? front)
      by_cases last : others = []
      · subst last
        rw [lines]
        · rfl
        · exact Ne.symm inside
        · rintro tail _ ⟨⟩
      · exact lines_cons (Ne.symm inside) apart (ih later last)

theorem lines_append (absent : '\n' ∉ text) :
    lines (text ++ '\n' :: rest) = withoutReturn text :: lines rest := by
  induction text with
  | nil => simp [lines, withoutReturn]
  | cons c others ih =>
      have inside := List.ne_of_not_mem_cons absent
      have later := List.not_mem_of_not_mem_cons absent
      by_cases ending : c = '\r' ∧ others = []
      · obtain ⟨rfl, rfl⟩ := ending
        simp [lines, withoutReturn]
      · have apart : c = '\r' → (others ++ '\n' :: rest).head? ≠ some '\n' := by
          intro returns front
          cases others with
          | nil => exact ending ⟨returns, rfl⟩
          | cons first tail => exact later (List.mem_of_mem_head? front)
        have kept : withoutReturn (c :: others) = c :: withoutReturn others := by
          rw [withoutReturn]
          rintro rfl rfl
          exact ending ⟨rfl, rfl⟩
        rw [List.cons_append, kept]
        exact lines_cons (Ne.symm inside) apart (ih later)

theorem lines_flatMap {rows : List α} {print : α → List Char}
    (each : ∀ row ∈ rows, '\n' ∉ print row ∧ '\r' ∉ print row) :
    lines (rows.flatMap fun row => print row ++ ['\n']) = rows.map print := by
  induction rows with
  | nil => rfl
  | cons row rest ih =>
      obtain ⟨ends, returns⟩ := each row (by simp)
      rw [List.flatMap_cons, List.append_assoc, List.singleton_append, lines_append ends,
        withoutReturn_of_not_mem returns, ih fun other member => each other (by simp [member]),
        List.map_cons]

end Lines

end BandedPalette.Text
