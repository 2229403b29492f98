import BandedPalette.Json.Quotation
namespace BandedPalette.Json

/-! Which texts write a JSON value.

The relations here say it without a reader: each names what a text writes and
leaves free what JSON leaves free, the white space between tokens and the
escapes inside quotes.  A relation speaks of the whole of its text.
-/

def Blanks (text : List Char) : Prop :=
  ∀ c ∈ text, isBlank c = true

instance : Decidable (Blanks text) :=
  List.decidableBAll _ text

inductive Padded (writes : List Char → Prop) : List Char → Prop where
  | intro (left : Blanks before) (token : writes middle) (right : Blanks after) :
      Padded writes (before ++ middle ++ after)

def comma (first : Bool) : List Char :=
  if first then [] else [',']

/-- Items in their order, or those after a first one. -/
inductive Items (writes : α → List Char → Prop) : Bool → List α → List Char → Prop where
  | nil : Items writes first [] []
  | cons (item : Padded (writes value) front) (rest : Items writes false values back) :
      Items writes first (value :: values) (comma first ++ front ++ back)

inductive WritesList (writes : α → List Char → Prop) (values : List α) : List Char → Prop where
  | intro (nonempty : values ≠ []) (items : Items writes true values content) :
      WritesList writes values ('[' :: (content ++ [']']))

def WritesNatural (number : Nat) (text : List Char) : Prop :=
  text = Nat.toDigits 10 number

inductive WritesUnit : Nat → List Char → Prop where
  | intro (first : Numeral.hexValue? a = some i) (second : Numeral.hexValue? b = some j)
      (third : Numeral.hexValue? c = some k) (fourth : Numeral.hexValue? d = some l) :
      WritesUnit (((i * 16 + j) * 16 + k) * 16 + l) [a, b, c, d]

/-- Characters as they may stand between quotes: as they are, after a backslash
as a letter, or by their number in one unit or in two surrogates. -/
inductive Spells : List Char → List Char → Prop where
  | nil : Spells [] []
  | plain (unquoted : c ≠ '"') (unescaped : c ≠ '\\') (visible : 32 ≤ c.toNat)
      (rest : Spells value text) : Spells (c :: value) (c :: text)
  | letter (known : escaped? letter = some c) (rest : Spells value text) :
      Spells (c :: value) ('\\' :: letter :: text)
  | numeric (digits : WritesUnit unit middle) (single : isLeading unit = false)
      (whole : isTrailing unit = false) (rest : Spells value text) :
      Spells (Char.ofNat unit :: value) ('\\' :: 'u' :: (middle ++ text))
  | pair (high : WritesUnit leading front) (leads : isLeading leading = true)
      (low : WritesUnit trailing back) (trails : isTrailing trailing = true)
      (rest : Spells value text) :
      Spells (Char.ofNat (0x10000 + (leading - 0xD800) * 0x400 + (trailing - 0xDC00)) :: value)
        ('\\' :: 'u' :: (front ++ '\\' :: 'u' :: (back ++ text)))

inductive Quotes (value : String) : List Char → Prop where
  | intro (spelled : Spells value.toList content) : Quotes value ('"' :: (content ++ ['"']))

theorem blanks_nil : Blanks [] := by
  decide

theorem blanks_append {before after : List Char} (left : Blanks before) (right : Blanks after) :
    Blanks (before ++ after) := by
  intro c member
  rcases List.mem_append.mp member with member | member
  · exact left c member
  · exact right c member

theorem Padded.imp {writes looser : List Char → Prop} {text : List Char}
    (loosen : ∀ token, writes token → looser token) (padded : Padded writes text) :
    Padded looser text := by
  obtain ⟨left, token, right⟩ := padded
  exact .intro left (loosen _ token) right

theorem Padded.pad {writes : List Char → Prop} {text gap : List Char} (padded : Padded writes text)
    (blanks : Blanks gap) : Padded writes (text ++ gap) := by
  obtain @⟨before, middle, after, left, token, right⟩ := padded
  rw [List.append_assoc (before ++ middle)]
  exact .intro left token (blanks_append right blanks)

theorem Padded.indent {writes : List Char → Prop} {text gap : List Char} (blanks : Blanks gap)
    (padded : Padded writes text) : Padded writes (gap ++ text) := by
  obtain @⟨before, middle, after, left, token, right⟩ := padded
  rw [← List.append_assoc, ← List.append_assoc]
  exact .intro (blanks_append blanks left) token right

namespace Items

variable {writes : α → List Char → Prop} {first : Bool} {values others : List α} {text : List Char}

theorem imp {looser : α → List Char → Prop}
    (loosen : ∀ value ∈ values, ∀ text, writes value text → looser value text)
    (items : Items writes first values text) : Items looser first values text := by
  induction items with
  | nil => exact .nil
  | cons item rest ih =>
      exact .cons (item.imp (loosen _ (by simp)))
        (ih fun other member => loosen other (by simp [member]))

theorem single {value : α} (items : Items writes first [value] text) :
    ∃ item, text = comma first ++ item ∧ Padded (writes value) item := by
  cases items with
  | @cons _ item _ _ _ padded rest =>
      cases rest
      exact ⟨item, List.append_nil _, padded⟩

/-- What stands before a place in a list and what stands after it. -/
theorem split (items : Items writes first (values ++ others) text) :
    ∃ front back, text = front ++ back ∧ Items writes first values front ∧
      Items writes (first && values.isEmpty) others back := by
  induction values generalizing first text with
  | nil => exact ⟨[], text, rfl, .nil, by simpa using items⟩
  | cons value values ih =>
      cases items with
      | cons item rest =>
          obtain ⟨front, back, rfl, before, after⟩ := ih rest
          refine ⟨comma first ++ _ ++ front, back, by simp only [List.append_assoc],
            .cons item before, by simpa using after⟩

theorem append {tail : List Char} (items : Items writes first values text)
    (following : Items writes (first && values.isEmpty) others tail) :
    Items writes first (values ++ others) (text ++ tail) := by
  induction items with
  | nil => simpa using following
  | cons item rest ih =>
      rw [List.cons_append, List.append_assoc]
      exact .cons item (ih (by simpa using following))

/-- White space after the last item belongs to it. -/
theorem pad {gap : List Char} (items : Items writes first values text) (nonempty : values ≠ [])
    (blanks : Blanks gap) : Items writes first values (text ++ gap) := by
  induction items with
  | nil => exact absurd rfl nonempty
  | @cons value front values back first item rest ih =>
      by_cases last : values = []
      · subst last
        cases rest
        rw [List.append_nil, List.append_assoc, ← List.append_nil (comma first ++ (front ++ gap))]
        exact .cons (item.pad blanks) .nil
      · rw [List.append_assoc]
        exact .cons item (ih last)

theorem indent {gap : List Char} (items : Items writes true values text) (nonempty : values ≠ [])
    (blanks : Blanks gap) : Items writes true values (gap ++ text) := by
  cases items with
  | nil => exact absurd rfl nonempty
  | @cons value front others back _ item rest =>
      have more : Items writes true (value :: others) (comma true ++ (gap ++ front) ++ back) :=
        .cons (item.indent blanks) rest
      simpa [comma] using more

theorem snoc {value : α} {gap item : List Char} (items : Items writes true values text)
    (blanks : Blanks gap) (padded : Padded (writes value) item) :
    Items writes true (values ++ [value]) (text ++ (gap ++ (comma values.isEmpty ++ item))) := by
  by_cases empty : values = []
  · subst empty
    cases items
    have only : Items writes true [value] (comma true ++ (gap ++ item) ++ []) :=
      .cons (padded.indent blanks) .nil
    simpa [comma] using only
  · have later : values.isEmpty = false := List.isEmpty_eq_false_iff.mpr empty
    rw [← List.append_assoc]
    refine (items.pad empty blanks).append ?_
    have last : Items writes false [value] (comma false ++ item ++ []) := .cons padded .nil
    simpa [later] using last

end Items

end BandedPalette.Json
