import BandedPalette.Proofs.Json.Decoding
namespace BandedPalette.Numeral

def endsNumber (c : Char) : Bool :=
  !c.isDigit && c ≠ '.' && c ≠ 'e' && c ≠ 'E'

structure Label where
  text : String
  base : Nat := 10
  few : 1 < base ∧ base ≤ 10 := by decide
  opens : text.toList.head?.any endsNumber = true := by decide
  visible : text.toList.all (fun c => 32 ≤ c.toNat) = true := by decide

/-- A number as it stands in a column. -/
inductive WritesCell (base number : Nat) : List Char → Prop where
  | intro (spaces zeros : Nat) :
      WritesCell base number
        (List.replicate spaces ' ' ++ (List.replicate zeros '0' ++ Nat.toDigits base number))

structure Cell where
  label : Label
  number : Nat
  text : String
  written : WritesCell label.base number text.toList

theorem visible_digitChar {digit : Nat} (small : digit < 16) :
    32 ≤ (Nat.digitChar digit).toNat := by
  revert digit
  decide

theorem visible_toDigits {base : Nat} (more : 1 < base) (few : base ≤ 16) (number : Nat) :
    Json.Visible (Nat.toDigits base number) := by
  induction number using Nat.strongRecOn with
  | ind number ih =>
      rw [Nat.toDigits_eq_if more]
      split
      · rename_i small
        exact Json.visible_cons (visible_digitChar (by omega)) Json.visible_nil
      · rename_i large
        have last : number % base < base := Nat.mod_lt _ (by omega)
        exact Json.visible_append (ih _ (Nat.div_lt_self (by omega) more))
          (Json.visible_cons (visible_digitChar (by omega)) Json.visible_nil)

theorem visible_hex (width number : Nat) : Json.Visible (hex width number).toList := by
  rw [hex, String.toList_ofList]
  exact Json.visible_append (Json.visible_replicate (by decide) _)
    (visible_toDigits (by decide) (by decide) number)

theorem visible_hexBytes (bytes : List UInt8) : Json.Visible (hexBytes bytes).toList := by
  rw [hexBytes, String.toList_ofList]
  refine Json.visible_flatMap fun byte _ => ?_
  have bound := byte.toNat_lt
  exact Json.visible_cons (visible_digitChar (by omega))
    (Json.visible_cons (visible_digitChar (by omega)) Json.visible_nil)

def decodeCell (base : Nat) (text : List Char) : Option (Nat × List Char) :=
  let text := text.dropWhile fun c => c = ' '
  if Json.digits text = [] then none
  else some (Nat.ofDigitChars base (Json.digits text) 0, Json.afterDigits text)

def decodeRow : List Label → List Char → Option (List Nat)
  | [], [] => some []
  | [], _ :: _ => none
  | label :: labels, text =>
      if label.text.toList <+: text then do
        let (number, rest) ← decodeCell label.base (text.drop label.text.toList.length)
        let numbers ← decodeRow labels rest
        return number :: numbers
      else none

def rowText (cells : List Cell) : List Char :=
  cells.flatMap fun cell => cell.label.text.toList ++ cell.text.toList

section Cells

variable {base number : Nat} {text : List Char}

theorem WritesCell.visible (few : 1 < base ∧ base ≤ 10) (written : WritesCell base number text) :
    Json.Visible text := by
  obtain ⟨spaces, zeros⟩ := written
  exact Json.visible_append (Json.visible_replicate (by decide) spaces)
    (Json.visible_append (Json.visible_replicate (by decide) zeros)
      (visible_toDigits few.1 (by omega) number))

theorem isDigit_of_mem_zeros (few : 1 < base ∧ base ≤ 10) (zeros : Nat) :
    ∀ c ∈ List.replicate zeros '0' ++ Nat.toDigits base number, c.isDigit = true := by
  intro c member
  rcases List.mem_append.mp member with zero | digit
  · rw [List.eq_of_mem_replicate zero]
    rfl
  · exact Nat.isDigit_of_mem_toDigits (Nat.zero_lt_of_lt few.1) few.2 digit

theorem ofDigitChars_zeros (few : 1 < base ∧ base ≤ 10) (zeros : Nat) :
    Nat.ofDigitChars base (List.replicate zeros '0' ++ Nat.toDigits base number) 0 = number := by
  induction zeros with
  | zero => exact Nat.ofDigitChars_toDigits few.1 few.2
  | succ zeros ih =>
      rwa [List.replicate_succ, List.cons_append, Nat.ofDigitChars_cons, Nat.mul_zero]

theorem dropWhile_spaces (spaces : Nat) (digits : ∀ c ∈ text, c.isDigit = true)
    (nonempty : text ≠ []) (rest : List Char) :
    (List.replicate spaces ' ' ++ (text ++ rest)).dropWhile (fun c => c = ' ') = text ++ rest := by
  obtain ⟨c, others, rfl⟩ := List.exists_cons_of_ne_nil nonempty
  have solid : ¬ decide (c = ' ') = true := by
    intro space
    have digit := digits c List.mem_cons_self
    rw [of_decide_eq_true space] at digit
    exact absurd digit (by decide)
  rw [List.dropWhile_append_of_pos fun d member => decide_eq_true (List.eq_of_mem_replicate member)]
  exact List.dropWhile_cons_of_neg solid

/-- A cell is read as its number, whatever it is padded with. -/
theorem decodes_cell (few : 1 < base ∧ base ≤ 10) (written : WritesCell base number text) :
    Json.Decodes (decodeCell base) number text := by
  intro rest ends
  obtain ⟨spaces, zeros⟩ := written
  have digits : ∀ c ∈ List.replicate zeros '0' ++ Nat.toDigits base number, c.isDigit = true :=
    isDigit_of_mem_zeros few zeros
  have nonempty : List.replicate zeros '0' ++ Nat.toDigits base number ≠ [] :=
    List.append_ne_nil_of_right_ne_nil _ Nat.toDigits_ne_nil
  rw [List.append_assoc]
  simp only [decodeCell, dropWhile_spaces spaces digits nonempty, Json.digits_append digits ends,
    Json.afterDigits_append digits ends, if_neg nonempty, ofDigitChars_zeros few]

end Cells

theorem Label.ends (label : Label) (rest : List Char) : Json.Ends (label.text.toList ++ rest) := by
  have opens := label.opens
  cases shape : label.text.toList with
  | nil => simp [shape] at opens
  | cons c others =>
      rw [List.cons_append]
      apply Json.ends_cons
      simpa [shape, endsNumber, and_assoc] using opens

theorem ends_rowText (cells : List Cell) : Json.Ends (rowText cells) := by
  cases cells with
  | nil => exact Json.ends_nil
  | cons cell rest =>
      rw [rowText, List.flatMap_cons, List.append_assoc]
      exact cell.label.ends _

theorem visible_rowText (cells : List Cell) : Json.Visible (rowText cells) :=
  Json.visible_flatMap fun cell _ =>
    Json.visible_append (Json.visible_of_all cell.label.visible)
      (cell.written.visible cell.label.few)

/-- A row is read back with its own labels. -/
theorem decodeRow_rowText (cells : List Cell) :
    decodeRow (cells.map Cell.label) (rowText cells) = some (cells.map Cell.number) := by
  induction cells with
  | nil => rfl
  | cons cell rest ih =>
      have read := decodes_cell cell.label.few cell.written _ (ends_rowText rest)
      rw [List.map_cons, rowText, List.flatMap_cons, List.append_assoc, decodeRow,
        if_pos (List.prefix_append _ _), List.drop_left]
      change (decodeCell cell.label.base (cell.text.toList ++ rowText rest) >>= _) = _
      rw [read]
      change (decodeRow (rest.map Cell.label) (rowText rest) >>= _) = _
      rw [ih]
      rfl

theorem writesCell_column (width number : Nat) :
    WritesCell 10 number (column width number).toList := by
  rw [column, String.toList_ofList]
  exact .intro _ 0

theorem writesCell_decimal (number : Nat) : WritesCell 10 number (decimal number).toList := by
  rw [toList_decimal]
  exact .intro 0 0

theorem writesCell_binary (width number : Nat) :
    WritesCell 2 number (binary width number).toList := by
  rw [binary, String.toList_ofList]
  exact .intro 0 _

end BandedPalette.Numeral
