import BandedPalette.Proofs.Color.Spelling
import BandedPalette.Proofs.Reference.Lines
import Mathlib.Logic.Relation
namespace BandedPalette.Reference

open Rgb (Spaces)

/-- A line of a text that is edited, marked when an edit put it there. -/
structure Row where
  text : List Char
  unbroken : '\n' ∉ text
  added : Bool

namespace Row

def empty : Row where
  text := []
  unbroken := by simp
  added := false

def pad (row : Row) (left : Spaces before) (right : Spaces after) : Row where
  text := before ++ row.text ++ after
  unbroken := by
    simp [left.newline_not_mem, right.newline_not_mem, row.unbroken]
  added := row.added

end Row

def written (rows : List Row) : List Char :=
  ['\n'].intercalate (rows.map Row.text)

inductive Filler : List Char → Prop where
  | blank (all : ∀ c ∈ line, Text.isBlank c = true) : Filler line
  | hash (left : ∀ c ∈ before, Text.isBlank c = true) : Filler (before ++ '#' :: ' ' :: rest)
  | slashes (left : ∀ c ∈ before, Text.isBlank c = true) : Filler (before ++ '/' :: '/' :: rest)

theorem spaces_nil : Spaces [] := by
  simp [Spaces]

inductive Returns : List Char → Prop where
  | none : Returns []
  | one : Returns ['\r']

theorem Returns.spaces {text : List Char} (returns : Returns text) : Spaces text := by
  cases returns with
  | none => exact spaces_nil
  | one =>
      intro c member
      rw [List.mem_singleton.mp member]
      decide

/-- One edit of the layout. -/
inductive Edit : List Row → List Row → Prop where
  | insert (row : Row) (added : row.added = true) (filler : Filler row.text) :
      Edit (front ++ back) (front ++ row :: back)
  | pad (row : Row) (left : Spaces before) (right : Spaces after) :
      Edit (front ++ row :: back) (front ++ row.pad left right :: back)
  | returnFeed (row next : Row) :
      Edit (front ++ row :: next :: back)
        (front ++ row.pad spaces_nil Returns.one.spaces :: next :: back)
  | addEnd (row : Row) (returns : Returns mark) :
      Edit (front ++ [row]) (front ++ [row.pad spaces_nil returns.spaces, .empty])
  | removeEnd (row last : Row) (returns : Returns mark) (empty : last.text = []) :
      Edit (front ++ [row.pad spaces_nil returns.spaces, last]) (front ++ [row])

theorem Filler.skipped {line : List Char} (filler : Filler line) : Skipped line := by
  cases filler with
  | blank all => exact .blank (.blank all)
  | @hash before rest left =>
      have solid : Text.Solid ['#'] := .single (by decide)
      obtain ⟨back, front, trimmed⟩ := Text.exists_trim_append solid (' ' :: rest)
      have trimmed : Text.trim (before ++ '#' :: ' ' :: rest) = '#' :: back :=
        (Text.trim_append_left left).trans trimmed
      -- The blank behind the mark is trimmed when nothing else follows it.
      rw [List.prefix_cons_iff] at front
      rcases front with rfl | ⟨others, rfl, _⟩
      · exact .mark (Text.trims_iff.mpr trimmed)
      · exact .hash (Text.trims_iff.mpr trimmed)
  | @slashes before rest left =>
      have solid : Text.Solid ['/', '/'] := (Text.Solid.single (by decide)).cons (by decide)
      obtain ⟨back, _, trimmed⟩ := Text.exists_trim_append solid rest
      exact .slashes (Text.trims_iff.mpr ((Text.trim_append_left left).trans trimmed))

section Line

variable {line : List Char}

/-- A line alone is refused by its own fault, or its number makes no difference. -/
theorem readLines_alone (line : List Char) :
    (∃ own, ∀ before, readLines before [line] = .ok own) ∨
      ∃ fault, Rgb.ofChars line = .error fault ∧
        ∀ before, readLines before [line] = .error ⟨before + 1, fault⟩ := by
  by_cases skipped : Skipped line
  · exact .inl ⟨[], fun before => readLines_skip before [] skipped⟩
  · cases read : Rgb.ofChars line with
    | ok color => exact .inl ⟨[color], fun before => readLines_read before [] skipped read⟩
    | error fault => exact .inr ⟨fault, rfl, fun before => readLines_refuse before [] skipped read⟩

theorem readLines_cons_alone (before : Nat) (line : List Char) (rest : List (List Char)) :
    readLines before (line :: rest) = (do
      let own ← readLines before [line]
      let others ← readLines (before + 1) rest
      return own ++ others) := by
  by_cases skipped : Skipped line
  · rw [readLines_skip before rest skipped, readLines_skip before [] skipped]
    cases readLines (before + 1) rest <;> rfl
  · cases read : Rgb.ofChars line with
    | ok color =>
        rw [readLines_read before rest skipped read, readLines_read before [] skipped read]
        cases readLines (before + 1) rest <;> rfl
    | error fault =>
        rw [readLines_refuse before rest skipped read, readLines_refuse before [] skipped read]
        rfl

end Line

/-- How many rows up to this one have a number, when those that were added have
none. -/
def Row.after (row : Row) (before : Nat) : Nat :=
  if row.added then before else before + 1

/-- What a text of rows is read as, when the rows that were added have no number. -/
def readRows (before : Nat) : List Row → Except LineFault (List Rgb)
  | [] => .ok []
  | row :: rest => do
      let own ← readLines before [row.text]
      let others ← readRows (row.after before) rest
      return own ++ others

section Step

variable {back other : List Row}

theorem readRows_append (front : List Row)
    (same : ∀ before, readRows before back = readRows before other) (before : Nat) :
    readRows before (front ++ back) = readRows before (front ++ other) := by
  induction front generalizing before with
  | nil => exact same before
  | cons row rest ih => simp only [List.cons_append, readRows, ih]

theorem readRows_skip {row : Row} (skipped : Skipped row.text) (before : Nat) (rest : List Row) :
    readRows before (row :: rest) = readRows (row.after before) rest := by
  rw [readRows, readLines_skip before [] skipped]
  cases readRows (row.after before) rest <;> rfl

theorem readRows_pad {left right : List Char} (row : Row) (before : Spaces left)
    (after : Spaces right) (count : Nat) (rest : List Row) :
    readRows count (row.pad before after :: rest) = readRows count (row :: rest) := by
  have trimmed : Text.trim (row.pad before after).text = Text.trim row.text := by
    rw [Row.pad, Text.trim_append_right fun c member => (after c member).1,
      Text.trim_append_left fun c member => (before c member).1]
  simp only [readRows, readLines, trimmed]
  rfl

theorem readRows_end {last : Row} (empty : last.text = []) (row : Row) (before : Nat) :
    readRows before [row, last] = readRows before [row] := by
  have skipped : Skipped last.text := empty ▸ .blank (Text.trims_iff.mpr rfl)
  exact readRows_append [row] (fun count => readRows_skip skipped count []) before

theorem readRows_edit {rows edited : List Row} (edit : Edit rows edited) (before : Nat) :
    readRows before edited = readRows before rows := by
  cases edit with
  | @insert front back row added filler =>
      apply readRows_append front
      intro count
      rw [readRows_skip filler.skipped, Row.after, if_pos added]
  | @pad left right front back row before after =>
      exact readRows_append front (fun count => readRows_pad row before after count back) _
  | @returnFeed front back row next =>
      exact readRows_append front (fun count => readRows_pad row _ _ count _) before
  | @addEnd mark front row returns =>
      apply readRows_append front
      intro count
      rw [readRows_pad, readRows_end rfl]
  | @removeEnd mark front row last returns empty =>
      apply readRows_append front
      intro count
      rw [readRows_pad, readRows_end empty]

theorem readRows_edits {rows edited : List Row} (edits : Relation.ReflTransGen Edit rows edited)
    (before : Nat) : readRows before edited = readRows before rows := by
  induction edits with
  | refl => rfl
  | tail _ edit ih => rw [readRows_edit edit, ih]

end Step

/-- Only a carriage return tells the lines of a text from the texts between its
line feeds, and it is trimmed. -/
theorem readLines_intercalate {texts : List (List Char)}
    (unbroken : ∀ text ∈ texts, '\n' ∉ text) (before : Nat) :
    readLines before (Text.lines (['\n'].intercalate texts)) = readLines before texts := by
  induction texts generalizing before with
  | nil => rfl
  | cons first others ih =>
      obtain ⟨inside, later⟩ := List.forall_mem_cons.mp unbroken
      cases others with
      | nil =>
          rw [List.intercalate_singleton]
          by_cases nothing : first = []
          · subst nothing
            exact (readLines_skip before [] (.blank (Text.trims_iff.mpr rfl))).symm
          · rw [Text.lines_of_not_mem inside nothing]
      | cons second others =>
          rw [List.intercalate_cons_cons, List.append_assoc, List.singleton_append,
            Text.lines_append inside]
          simp only [readLines, Text.trim_withoutReturn, ih later]

theorem ofText_written (rows : List Row) :
    ofText (String.ofList (written rows)) = readLines 0 (rows.map Row.text) := by
  rw [ofText, ofChars, String.toList_ofList, written]
  apply readLines_intercalate
  intro text member
  obtain ⟨row, _, rfl⟩ := List.mem_map.mp member
  exact row.unbroken

section Run

variable {rows : List Row} {count : Nat}

theorem readRows_eq_readLines (original : ∀ row ∈ rows, row.added = false) (before : Nat) :
    readRows before rows = readLines before (rows.map Row.text) := by
  induction rows generalizing before with
  | nil => rfl
  | cons row rest ih =>
      obtain ⟨kept, later⟩ := List.forall_mem_cons.mp original
      have next : row.after before = before + 1 := by simp [Row.after, kept]
      rw [readRows, List.map_cons, readLines_cons_alone before row.text (rest.map _), next,
        ih later]

theorem readLines_of_readRows {colors : List Rgb} (read : readRows count rows = .ok colors)
    (before : Nat) : readLines before (rows.map Row.text) = .ok colors := by
  induction rows generalizing count before colors with
  | nil => exact read
  | cons row rest ih =>
      rw [List.map_cons, readLines_cons_alone]
      rcases readLines_alone row.text with ⟨own, accepted⟩ | ⟨fault, _, refused⟩
      · rw [readRows, accepted] at read
        obtain ⟨found, same, following⟩ := exists_of_bind read
        cases same
        obtain ⟨others, later, whole⟩ := exists_of_bind following
        rw [accepted, ← whole]
        simp only [bind, Except.bind, ih later]
      · rw [readRows, refused] at read
        cases read

/-- The row that is refused is ahead of its number by the rows that were added
before it. -/
theorem exists_refused_row {number : Nat} {fault : ColorFault}
    (refused : readRows count rows = .error ⟨number, fault⟩) (before : Nat) :
    ∃ front row back, rows = front ++ row :: back ∧ Rgb.ofChars row.text = .error fault ∧
      readLines before (rows.map Row.text) = .error ⟨before + (front.length + 1), fault⟩ ∧
      count + (front.length + 1) = number + front.countP Row.added := by
  induction rows generalizing count before with
  | nil => cases refused
  | cons row rest ih =>
      rcases readLines_alone row.text with ⟨own, accepted⟩ | ⟨fault, alone, misread⟩
      · have later : readRows (row.after count) rest = .error ⟨number, fault⟩ := by
          rw [readRows, accepted] at refused
          cases tail : readRows (row.after count) rest with
          | ok others =>
              rw [tail] at refused
              cases refused
          | error found =>
              rw [tail] at refused
              exact refused
        obtain ⟨front, other, back, rfl, alone, stopped, ahead⟩ := ih later (before + 1)
        refine ⟨row :: front, other, back, rfl, alone, ?_, ?_⟩
        · rw [List.map_cons, readLines_cons_alone, accepted, stopped, List.length_cons,
            Nat.add_assoc, Nat.add_comm 1]
          rfl
        · rw [List.length_cons, List.countP_cons]
          cases marked : row.added with
          | true =>
              simp only [Row.after, marked, if_true] at ahead ⊢
              omega
          | false =>
              simp only [Row.after, marked, Bool.false_eq_true, if_false] at ahead ⊢
              omega
      · rw [readRows, misread] at refused
        cases refused
        refine ⟨[], row, rest, rfl, alone, ?_, rfl⟩
        rw [List.map_cons, readLines_cons_alone, misread]
        rfl

end Run

/-- Edits of the layout keep the colours of a text.  They keep the fault of a text
that is refused, and the line it is found in, whose number grows by the number of
lines that were inserted before it. -/
theorem layout_edits_keep {rows edited : List Row} (original : ∀ row ∈ rows, row.added = false)
    (edits : Relation.ReflTransGen Edit rows edited) :
    (∀ colors, ofText (String.ofList (written rows)) = .ok colors →
      ofText (String.ofList (written edited)) = .ok colors) ∧
    ∀ number fault, ofText (String.ofList (written rows)) = .error ⟨number, fault⟩ →
      ∃ front row back, edited = front ++ row :: back ∧ Rgb.ofChars row.text = .error fault ∧
        ofText (String.ofList (written edited)) = .error ⟨front.length + 1, fault⟩ ∧
        front.length + 1 = number + front.countP Row.added := by
  have kept : readRows 0 edited = readLines 0 (rows.map Row.text) := by
    rw [readRows_edits edits, readRows_eq_readLines original]
  rw [ofText_written, ofText_written, ← kept]
  constructor
  · exact fun colors read => readLines_of_readRows read 0
  · intro number fault refused
    simpa only [Nat.zero_add] using exists_refused_row refused 0

def whiteRow : Row :=
  ⟨['#', 'f', 'f', 'f', 'f', 'f', 'f'], by decide, false⟩

def shortRow : Row :=
  ⟨['1', ',', '2'], by decide, false⟩

def noteRow : Row :=
  ⟨['\u2003', '#', ' ', 'x'], by decide, true⟩

theorem spaces_wide : Spaces ['\u2003'] := by
  intro c member
  rw [List.mem_singleton.mp member]
  decide

def relaidRows : List Row :=
  [noteRow, whiteRow.pad spaces_nil Returns.one.spaces,
    (shortRow.pad spaces_wide spaces_nil).pad spaces_nil Returns.one.spaces, .empty]

theorem layout_edits_keep_relaid :
    (∀ row ∈ [whiteRow, shortRow], row.added = false) ∧
      Relation.ReflTransGen Edit [whiteRow, shortRow] relaidRows ∧
      written relaidRows = "\u2003# x\n#ffffff\r\n\u20031,2\r\n".toList ∧
      ofText (String.ofList (written [whiteRow, shortRow])) =
        .error ⟨2, .spelling (.notTriple "1,2")⟩ ∧
      ∃ front row back, relaidRows = front ++ row :: back ∧
        Rgb.ofChars row.text = .error (.spelling (.notTriple "1,2")) ∧
        ofText (String.ofList (written relaidRows)) =
          .error ⟨front.length + 1, .spelling (.notTriple "1,2")⟩ ∧
        front.length + 1 = 2 + front.countP Row.added := by
  have original : ∀ row ∈ [whiteRow, shortRow], row.added = false := by decide
  have refused : ofText (String.ofList (written [whiteRow, shortRow])) =
      .error ⟨2, .spelling (.notTriple "1,2")⟩ := by rfl
  have filler : Filler noteRow.text :=
    @Filler.hash ['\u2003'] ['x'] fun c member => (spaces_wide c member).1
  have edits : Relation.ReflTransGen Edit [whiteRow, shortRow] relaidRows :=
    .head (@Edit.insert [] [whiteRow, shortRow] noteRow rfl filler)
      (.head (@Edit.returnFeed [noteRow] [] whiteRow shortRow)
        (.head (@Edit.pad _ _ [noteRow, whiteRow.pad spaces_nil Returns.one.spaces] []
            shortRow spaces_wide spaces_nil)
          (.single (@Edit.addEnd _ [noteRow, whiteRow.pad spaces_nil Returns.one.spaces]
            (shortRow.pad spaces_wide spaces_nil) .one))))
  exact ⟨original, edits, rfl, refused, (layout_edits_keep original edits).2 _ _ refused⟩

end BandedPalette.Reference
