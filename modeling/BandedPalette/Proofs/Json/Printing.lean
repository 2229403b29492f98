import BandedPalette.Json.Printer
import BandedPalette.Proofs.Json.Grammar
namespace BandedPalette.Json

open Value

open Numeral in
theorem writesUnit_control {number : Nat} (control : number < 32) :
    WritesUnit number (padded 16 4 number) := by
  have shape : ∀ number < 32, ∃ c d, padded 16 4 number = ['0', '0', c, d] ∧
      hexValue? c = some (number / 16) ∧ hexValue? d = some (number % 16) := by
    intro number control
    refine ⟨Nat.digitChar (number / 16), Nat.digitChar (number % 16), ?_⟩
    revert number
    decide
  obtain ⟨c, d, text, high, low⟩ := shape number control
  rw [text]
  have zero : hexValue? '0' = some 0 := by decide
  have written := WritesUnit.intro zero zero high low
  have whole : ((0 * 16 + 0) * 16 + number / 16) * 16 + number % 16 = number := by omega
  rwa [whole] at written

theorem spells_escapeChar {value text : List Char} (c : Char) (rest : Spells value text) :
    Spells (c :: value) (escapeChar c ++ text) := by
  unfold escapeChar
  split
  case h_8 =>
    rename_i unquoted unescaped _ _ _ _ _
    by_cases control : c.toNat < 32
    · rw [if_pos control]
      have whole : isLeading c.toNat = false ∧ isTrailing c.toNat = false := by
        simp only [isLeading, isTrailing, Bool.and_eq_false_iff, decide_eq_false_iff_not]
        omega
      have spelled := Spells.numeric (writesUnit_control control) whole.1 whole.2 rest
      rwa [Char.ofNat_toNat] at spelled
    · rw [if_neg control]
      exact .plain unquoted unescaped (by omega) rest
  all_goals exact .letter rfl rest

theorem spells_escaped (value : List Char) : Spells value (value.flatMap escapeChar) := by
  induction value with
  | nil => exact .nil
  | cons c rest ih => exact spells_escapeChar c ih

theorem quotes_quoted (value : String) : Quotes value (quoted value).toList := by
  rw [quoted, String.toList_ofList]
  exact .intro (spells_escaped value.toList)

theorem blanks_newline (depth : Nat) : Blanks (newline depth).toList := by
  intro c member
  rw [newline, String.toList_ofList, List.mem_cons, List.mem_replicate] at member
  rcases member with rfl | ⟨_, rfl⟩ <;> decide

theorem toList_natural (number depth : Nat) :
    ((natural number).laidOut depth).toList = Nat.toDigits 10 number := by
  rw [natural, laidOut]
  exact Numeral.toList_decimal number

def memberText (depth : Nat) (name : String) (value : Value) : List Char :=
  (quoted name).toList ++ ':' :: ' ' :: (value.laidOut depth).toList

def furtherLine (depth : Nat) (text : List Char) : List Char :=
  ',' :: ((newline depth).toList ++ text)

theorem toList_laidOutItems (depth : Nat) (values : List Value) :
    (laidOutItems depth values).toList =
      values.flatMap fun value =>
        furtherLine (depth + 1) (value.laidOut (depth + 1)).toList := by
  induction values with
  | nil => simp [laidOutItems]
  | cons value rest ih => simp [laidOutItems, furtherLine, ih]

theorem toList_laidOutFields (depth : Nat) (fields : List (String × Value)) :
    (laidOutFields depth fields).toList =
      fields.flatMap fun field =>
        furtherLine (depth + 1) (memberText (depth + 1) field.1 field.2) := by
  induction fields with
  | nil => simp [laidOutFields]
  | cons field rest ih =>
      obtain ⟨name, value⟩ := field
      simp [laidOutFields, furtherLine, memberText, ih]

/-- Lines of items.  The last one takes in the line end before the bracket. -/
theorem items_lines {writes : α → List Char → Prop} {print : α → List Char} (depth : Nat)
    (first : Bool) (value : α) (others : List α)
    (prints : ∀ item ∈ value :: others, writes item (print item)) :
    Items writes first (value :: others)
      (comma first ++ ((newline (depth + 1)).toList ++ print value) ++
        (others.flatMap fun item => furtherLine (depth + 1) (print item)) ++
        (newline depth).toList) := by
  have line := blanks_newline (depth + 1)
  induction others generalizing first value with
  | nil =>
      have shape : comma first ++ ((newline (depth + 1)).toList ++ print value) ++
          ([].flatMap fun item => furtherLine (depth + 1) (print item)) ++
          (newline depth).toList =
        comma first ++ ((newline (depth + 1)).toList ++ print value ++ (newline depth).toList) ++
          [] := by simp
      rw [shape]
      exact .cons (.intro line (prints value (by simp)) (blanks_newline depth)) .nil
  | cons other others ih =>
      have rest := ih false other fun item member => prints item (by simp [member])
      have shape : comma first ++ ((newline (depth + 1)).toList ++ print value) ++
          ((other :: others).flatMap fun item => furtherLine (depth + 1) (print item)) ++
          (newline depth).toList =
        comma first ++ ((newline (depth + 1)).toList ++ print value ++ []) ++
          (comma false ++ ((newline (depth + 1)).toList ++ print other) ++
            (others.flatMap fun item => furtherLine (depth + 1) (print item)) ++
            (newline depth).toList) := by simp [furtherLine, comma]
      rw [shape]
      exact .cons (.intro line (prints value (by simp)) blanks_nil) rest

section Lines

variable {writes : α → List Char → Prop} {values : List α} {depth : Nat}

theorem writesList_laidOut {value : α → Value} (nonempty : values ≠ [])
    (prints : ∀ item ∈ values, writes item ((value item).laidOut (depth + 1)).toList) :
    WritesList writes values ((Value.list (values.map value)).laidOut depth).toList := by
  obtain ⟨first, others, rfl⟩ := List.exists_cons_of_ne_nil nonempty
  have items := items_lines depth true first others prints
  have shape : ((Value.list ((first :: others).map value)).laidOut depth).toList =
      '[' :: ((comma true ++ ((newline (depth + 1)).toList ++
          ((value first).laidOut (depth + 1)).toList) ++
        (others.flatMap fun item =>
          furtherLine (depth + 1) ((value item).laidOut (depth + 1)).toList) ++
        (newline depth).toList) ++ [']']) := by
    simp [laidOut, toList_laidOutItems, comma, List.flatMap_map]
  rw [shape]
  exact .intro (List.cons_ne_nil first others) items

theorem items_laidOut {name : α → String} {value : α → Value} (nonempty : values ≠ [])
    (prints : ∀ item ∈ values,
      writes item (memberText (depth + 1) (name item) (value item))) :
    ∃ content, Items writes true values content ∧
      ((Value.record (values.map fun item => (name item, value item))).laidOut depth).toList =
        '\x7b' :: (content ++ ['\x7d']) := by
  obtain ⟨first, others, rfl⟩ := List.exists_cons_of_ne_nil nonempty
  refine ⟨_, items_lines depth true first others prints, ?_⟩
  simp [laidOut, toList_laidOutFields, comma, List.flatMap_map, memberText]

end Lines

end BandedPalette.Json
