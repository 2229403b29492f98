import BandedPalette.Json.Printer
import BandedPalette.Proofs.Json.Printing
import BandedPalette.Proofs.Json.Reading
import BandedPalette.Proofs.Text.Layout
namespace BandedPalette.Json

open Numeral

def decodeNatural (text : List Char) : Option (Nat × List Char) :=
  if digits text = [] then none
  else some (Nat.ofDigitChars 10 (digits text) 0, afterDigits text)

def decodeInteger (text : List Char) : Option (Int × List Char) :=
  match text with
  | '-' :: rest => (decodeNatural rest).map fun (size, rest) => (-(size : Int), rest)
  | _ => (decodeNatural text).map fun (number, rest) => ((number : Int), rest)

def decodeQuoted (text : List Char) : Option (String × List Char) :=
  match text with
  | '"' :: rest => (readQuoted rest).toOption.map fun (value, rest) => (String.ofList value, rest)
  | _ => none

section Items

variable (decode : List Char → Option (α × List Char)) (close : Char)

def decodeFurther : Nat → List Char → Option (List α × List Char)
  | 0, _ => none
  | count + 1, text =>
      match text with
      | ',' :: rest => do
          let (item, rest) ← decode rest
          let (items, rest) ← decodeFurther count rest
          return (item :: items, rest)
      | c :: rest => if c = close then some ([], rest) else none
      | [] => none

def decodeItems (text : List Char) : Option (List α × List Char) :=
  match text with
  | c :: rest =>
      if c = close then some ([], rest) else decodeFurther decode close text.length (',' :: text)
  | [] => none

def decodeField (text : List Char) : Option ((String × α) × List Char) := do
  let (name, rest) ← decodeQuoted text
  match rest with
  | ':' :: rest => do
      let (value, rest) ← decode rest
      return ((name, value), rest)
  | _ => none

end Items

/-- A value of bounded depth and the text after it. -/
def decodeValue : Nat → List Char → Option (Value × List Char)
  | 0, _ => none
  | depth + 1, text =>
      match text with
      | '"' :: _ => (decodeQuoted text).map fun (value, rest) => (.text value, rest)
      | '[' :: rest =>
          (decodeItems (decodeValue depth) ']' rest).map fun (items, rest) => (.list items, rest)
      | '\x7b' :: rest =>
          (decodeItems (decodeField (decodeValue depth)) '\x7d' rest).map fun (fields, rest) =>
            (.record fields, rest)
      | _ => (decodeInteger text).map fun (number, rest) => (.integer number, rest)

/-- The value that a whole text writes.  It is no deeper than the text is long. -/
def decode (text : List Char) : Option Value :=
  match decodeValue text.length text with
  | some (value, []) => some value
  | _ => none

/-- A decoder that takes in a token and nothing more. -/
def Decodes (decode : List Char → Option (α × List Char)) (value : α) (token : List Char) : Prop :=
  ∀ rest, Ends rest → decode (token ++ rest) = some (value, rest)

theorem decodes_toDigits (number : Nat) :
    Decodes decodeNatural number (Nat.toDigits 10 number) := by
  intro rest ends
  have all := isDigit_of_mem_toDigits number
  rw [decodeNatural, digits_append all ends, if_neg Nat.toDigits_ne_nil,
    afterDigits_append all ends, Nat.ofDigitChars_ten_toDigits]

theorem signed_opens (number : Int) :
    ∃ c rest, (signed number).toList = c :: rest ∧ (c = '-' ∨ c.isDigit = true) := by
  cases number with
  | ofNat number =>
      obtain ⟨c, rest, shape⟩ := List.exists_cons_of_ne_nil
        (Nat.toDigits_ne_nil (n := number) (b := 10))
      have digit := isDigit_of_mem_toDigits number c (by simp [shape])
      exact ⟨c, rest, (toList_decimal number).trans shape, .inr digit⟩
  | negSucc size => exact ⟨'-', _, String.toList_append, .inl rfl⟩

theorem mem_signed {number : Int} {c : Char} (member : c ∈ (signed number).toList) :
    c = '-' ∨ c.isDigit = true := by
  cases number with
  | ofNat number =>
      rw [signed, toList_decimal] at member
      exact .inr (isDigit_of_mem_toDigits number c member)
  | negSucc size =>
      rw [signed, String.toList_append, toList_decimal] at member
      rcases List.mem_append.mp member with sign | digit
      · exact .inl (List.mem_singleton.mp sign)
      · exact .inr (isDigit_of_mem_toDigits (size + 1) c digit)

theorem decodes_signed (number : Int) : Decodes decodeInteger number (signed number).toList := by
  intro rest ends
  cases number with
  | ofNat number =>
      have read := decodes_toDigits number rest ends
      obtain ⟨c, others, shape⟩ := List.exists_cons_of_ne_nil
        (Nat.toDigits_ne_nil (n := number) (b := 10))
      have unsigned : c ≠ '-' := by
        rintro rfl
        have digit := isDigit_of_mem_toDigits number '-' (by simp [shape])
        exact absurd digit (by decide)
      rw [signed, toList_decimal]
      rw [shape, List.cons_append] at read ⊢
      simp [decodeInteger, unsigned, read]
  | negSucc size =>
      have read := decodes_toDigits (size + 1) rest ends
      rw [signed, String.toList_append, toList_decimal]
      change (decodeNatural (Nat.toDigits 10 (size + 1) ++ rest)).map _ = _
      rw [read]
      rfl

theorem decodes_quoted (value : String) : Decodes decodeQuoted value (quoted value).toList := by
  intro rest _
  have read := readQuoted_of_spells (spells_escaped value.toList) rest
  simp [quoted, decodeQuoted, read, Except.toOption]

theorem decodes_field {decode : List Char → Option (α × List Char)} {value : α}
    {token : List Char} (name : String) (decoded : Decodes decode value token) :
    Decodes (decodeField decode) (name, value) ((quoted name).toList ++ ':' :: token) := by
  intro rest ends
  have front := decodes_quoted name (':' :: (token ++ rest)) (ends_cons (by decide))
  simp [decodeField, front, decoded rest ends]

/-- Items between two marks, with commas between them. -/
def enclosed (opening closing : Char) (token : α → List Char) : List α → List Char
  | [] => [opening, closing]
  | item :: rest =>
      opening :: (token item ++ ((rest.flatMap fun item => ',' :: token item) ++ [closing]))

section Items

variable {decode : List Char → Option (α × List Char)} {token : α → List Char}
  {opening closing : Char} {items : List α}

theorem decodeFurther_flatMap (each : ∀ item ∈ items, Decodes decode item (token item))
    (unmarked : closing ≠ ',') (closes : ∀ rest, Ends (closing :: rest)) (rest : List Char)
    {count : Nat} (enough : items.length < count) :
    decodeFurther decode closing count
        ((items.flatMap fun item => ',' :: token item) ++ closing :: rest) =
      some (items, rest) := by
  induction items generalizing count with
  | nil =>
      obtain ⟨count, rfl⟩ := Nat.exists_eq_succ_of_ne_zero (Nat.ne_of_gt enough)
      simp [decodeFurther]
  | cons item others ih =>
      obtain ⟨count, rfl⟩ := Nat.exists_eq_succ_of_ne_zero (Nat.ne_zero_of_lt enough)
      have later := ih (fun other member => each other (by simp [member]))
        (Nat.lt_of_succ_lt_succ enough)
      have next : Ends ((others.flatMap fun item => ',' :: token item) ++ closing :: rest) := by
        cases others with
        | nil => exact closes rest
        | cons other others => exact ends_cons (c := ',') (by decide)
      have first := each item (by simp) _ next
      simp [decodeFurther, first, later]

theorem length_le_flatMap (token : α → List Char) (items : List α) :
    items.length ≤ (items.flatMap fun item => ',' :: token item).length := by
  induction items with
  | nil => exact Nat.le_refl 0
  | cons item others ih =>
      simp only [List.flatMap_cons, List.length_append, List.length_cons]
      omega

/-- The opening mark decides what is decoded, so it is taken off before. -/
theorem decodeItems_enclosed (opening : Char)
    (each : ∀ item ∈ items, Decodes decode item (token item)) (unmarked : closing ≠ ',')
    (closes : ∀ rest, Ends (closing :: rest))
    (opens : ∀ item ∈ items, ∃ c back, token item = c :: back ∧ c ≠ closing) (rest : List Char) :
    ∃ content, enclosed opening closing token items ++ rest = opening :: content ∧
      decodeItems decode closing content = some (items, rest) := by
  cases items with
  | nil => exact ⟨closing :: rest, rfl, by simp [decodeItems]⟩
  | cons item others =>
      refine ⟨token item ++ ((others.flatMap fun other => ',' :: token other) ++ closing :: rest),
        by simp [enclosed], ?_⟩
      obtain ⟨c, back, shape, different⟩ := opens item (by simp)
      have enough : (item :: others).length < (token item ++
          ((others.flatMap fun other => ',' :: token other) ++ closing :: rest)).length := by
        have later := length_le_flatMap token others
        simp only [shape, List.length_append, List.length_cons]
        omega
      have further := decodeFurther_flatMap each unmarked closes rest enough
      simp only [List.flatMap_cons, List.cons_append, List.append_assoc, shape] at further ⊢
      rw [decodeItems, if_neg different, further]

theorem length_lt_enclosed (opening closing : Char) (token : α → List Char) {item : α}
    (member : item ∈ items) :
    (token item).length < (enclosed opening closing token items).length := by
  have within := (List.sublist_flatten_of_mem
    (List.mem_map_of_mem (f := fun item => ',' :: token item) member)).length_le
  rw [← List.flatMap_def] at within
  cases items with
  | nil => cases member
  | cons first rest =>
      simp only [enclosed, List.flatMap_cons, List.length_cons, List.length_append] at within ⊢
      omega

end Items

inductive Plain : Value → Prop where
  | integer : Plain (.integer number)
  | text : Plain (.text value)
  | list (each : ∀ item ∈ items, Plain item) : Plain (.list items)
  | record (each : ∀ field ∈ fields, Plain field.2) : Plain (.record fields)

def fieldText (field : String × Value) : List Char :=
  (quoted field.1).toList ++ ':' :: field.2.compact.toList

theorem toList_compact_list (items : List Value) :
    (Value.list items).compact.toList =
      enclosed '[' ']' (fun item => item.compact.toList) items := by
  have further (rest : List Value) : (Value.compactItems rest).toList =
      rest.flatMap fun item => ',' :: item.compact.toList := by
    induction rest with
    | nil => simp [Value.compactItems]
    | cons item rest ih => simp [Value.compactItems, ih]
  cases items with
  | nil => simp [Value.compact, enclosed]
  | cons item rest => simp [Value.compact, enclosed, further]

theorem toList_compact_record (fields : List (String × Value)) :
    (Value.record fields).compact.toList = enclosed '\x7b' '\x7d' fieldText fields := by
  have further (rest : List (String × Value)) : (Value.compactFields rest).toList =
      rest.flatMap fun field => ',' :: fieldText field := by
    induction rest with
    | nil => simp [Value.compactFields]
    | cons field rest ih => simp [Value.compactFields, fieldText, ih]
  cases fields with
  | nil => simp [Value.compact, enclosed]
  | cons field rest => simp [Value.compact, enclosed, further, fieldText]

theorem enclosed_opens (opening closing : Char) (token : α → List Char) (items : List α) :
    ∃ back, enclosed opening closing token items = opening :: back := by
  cases items <;> exact ⟨_, rfl⟩

/-- No value starts with the mark that closes a list. -/
theorem compact_opens {value : Value} (plain : Plain value) :
    ∃ c back, value.compact.toList = c :: back ∧ c ≠ ']' := by
  cases plain with
  | @integer number =>
      obtain ⟨c, rest, shape, front⟩ := signed_opens number
      refine ⟨c, rest, shape, ?_⟩
      rintro rfl
      simp at front
  | text => exact ⟨'"', _, String.toList_ofList, by decide⟩
  | @list items _ =>
      rw [toList_compact_list]
      obtain ⟨back, shape⟩ := enclosed_opens '[' ']' (fun item : Value => item.compact.toList) items
      exact ⟨'[', back, shape, by decide⟩
  | @record fields _ =>
      rw [toList_compact_record]
      obtain ⟨back, shape⟩ := enclosed_opens '\x7b' '\x7d' fieldText fields
      exact ⟨'\x7b', back, shape, by decide⟩

theorem decodeValue_signed (depth : Nat) (number : Int) :
    Decodes (decodeValue (depth + 1)) (.integer number) (signed number).toList := by
  intro rest ends
  have read := decodes_signed number rest ends
  obtain ⟨c, others, shape, front⟩ := signed_opens number
  rw [shape] at read ⊢
  unfold decodeValue
  split
  case h_4 => rw [read]; rfl
  all_goals
    rename_i same
    cases same
    simp at front

theorem decodeValue_quoted (depth : Nat) (value : String) :
    Decodes (decodeValue (depth + 1)) (.text value) (quoted value).toList := by
  intro rest ends
  have read := decodes_quoted value rest ends
  obtain ⟨back, front⟩ : ∃ back, (quoted value).toList = '"' :: back := ⟨_, String.toList_ofList⟩
  rw [front, List.cons_append] at read ⊢
  simp [decodeValue, read]

theorem decodeValue_list {depth : Nat} {items : List Value} (plain : ∀ item ∈ items, Plain item)
    (each : ∀ item ∈ items, Decodes (decodeValue depth) item item.compact.toList) :
    Decodes (decodeValue (depth + 1)) (.list items) (Value.list items).compact.toList := by
  intro rest _
  have opens : ∀ item ∈ items, ∃ c back, item.compact.toList = c :: back ∧ c ≠ ']' :=
    fun item member => compact_opens (plain item member)
  obtain ⟨content, shape, read⟩ := decodeItems_enclosed '[' each (by decide)
    (fun _ => ends_cons (by decide)) opens rest
  rw [toList_compact_list, shape]
  simp [decodeValue, read]

theorem decodeValue_record {depth : Nat} {fields : List (String × Value)}
    (each : ∀ field ∈ fields, Decodes (decodeValue depth) field.2 field.2.compact.toList) :
    Decodes (decodeValue (depth + 1)) (.record fields) (Value.record fields).compact.toList := by
  intro rest _
  have decoded : ∀ field ∈ fields,
      Decodes (decodeField (decodeValue depth)) field (fieldText field) :=
    fun field member => decodes_field field.1 (each field member)
  have opens : ∀ field ∈ fields, ∃ c back, fieldText field = c :: back ∧ c ≠ '\x7d' := by
    intro field _
    rw [fieldText, quoted, String.toList_ofList]
    exact ⟨'"', _, rfl, by decide⟩
  obtain ⟨content, shape, read⟩ := decodeItems_enclosed '\x7b' decoded (by decide)
    (fun _ => ends_cons (by decide)) opens rest
  rw [toList_compact_record, shape]
  simp [decodeValue, read]

theorem exists_depth {value : Value} (plain : Plain value) {depth : Nat}
    (deep : value.compact.toList.length ≤ depth) : ∃ less, depth = less + 1 := by
  obtain ⟨c, back, opens, _⟩ := compact_opens plain
  apply Nat.exists_eq_succ_of_ne_zero
  rintro rfl
  simp [opens] at deep

theorem decodes_compact {value : Value} (plain : Plain value) {depth : Nat}
    (deep : value.compact.toList.length ≤ depth) :
    Decodes (decodeValue depth) value value.compact.toList := by
  -- An item is shorter than the text around it, so one less depth is enough for it.
  induction plain generalizing depth with
  | integer =>
      obtain ⟨less, rfl⟩ := exists_depth .integer deep
      exact decodeValue_signed less _
  | text =>
      obtain ⟨less, rfl⟩ := exists_depth .text deep
      exact decodeValue_quoted less _
  | list each ih =>
      obtain ⟨less, rfl⟩ := exists_depth (.list each) deep
      apply decodeValue_list each
      intro item member
      rw [toList_compact_list] at deep
      have shorter := length_lt_enclosed '[' ']' (fun item : Value => item.compact.toList) member
      exact ih item member (by omega)
  | record each ih =>
      obtain ⟨less, rfl⟩ := exists_depth (.record each) deep
      apply decodeValue_record
      intro field member
      rw [toList_compact_record] at deep
      have shorter := length_lt_enclosed '\x7b' '\x7d' fieldText member
      have named : field.2.compact.toList.length ≤ (fieldText field).length := by
        simp only [fieldText, List.length_append, List.length_cons]
        omega
      exact ih field member (by omega)

theorem decode_compact {value : Value} (plain : Plain value) :
    decode value.compact.toList = some value := by
  have read := decodes_compact plain (Nat.le_refl _) [] ends_nil
  rw [List.append_nil] at read
  rw [decode, read]

/-- Characters that are no controls, so that none of them ends a line. -/
def Visible (text : List Char) : Prop :=
  ∀ c ∈ text, 32 ≤ c.toNat

theorem visible_of_all {text : List Char} (all : text.all (fun c => 32 ≤ c.toNat) = true) :
    Visible text := by
  intro c member
  exact of_decide_eq_true (List.all_eq_true.mp all c member)

theorem visible_nil : Visible [] := by
  intro c member
  cases member

theorem visible_cons {c : Char} {text : List Char} (seen : 32 ≤ c.toNat) (rest : Visible text) :
    Visible (c :: text) := by
  intro d member
  rcases List.mem_cons.mp member with rfl | member
  · exact seen
  · exact rest d member

theorem visible_append {front back : List Char} (left : Visible front) (right : Visible back) :
    Visible (front ++ back) := by
  intro c member
  rcases List.mem_append.mp member with member | member
  · exact left c member
  · exact right c member

theorem visible_replicate {c : Char} (seen : 32 ≤ c.toNat) (count : Nat) :
    Visible (List.replicate count c) := by
  intro d member
  rwa [List.eq_of_mem_replicate member]

theorem Visible.unbroken {text : List Char} (visible : Visible text) :
    '\n' ∉ text ∧ '\r' ∉ text :=
  ⟨fun member => absurd (visible _ member) (by decide),
    fun member => absurd (visible _ member) (by decide)⟩

theorem visible_flatMap {items : List α} {print : α → List Char}
    (each : ∀ item ∈ items, Visible (print item)) : Visible (items.flatMap print) := by
  intro c member
  obtain ⟨item, listed, inside⟩ := List.mem_flatMap.mp member
  exact each item listed c inside

theorem visible_escapeChar (c : Char) : Visible (escapeChar c) := by
  have control : ∀ number < 32,
      (['\\', 'u'] ++ padded 16 4 number).all (fun d => 32 ≤ d.toNat) = true := by decide
  unfold escapeChar
  split
  case h_8 =>
    split
    · rename_i small
      exact visible_of_all (control c.toNat small)
    · intro d member
      cases List.mem_singleton.mp member
      omega
  all_goals exact visible_of_all rfl

theorem visible_quoted (value : String) : Visible (quoted value).toList := by
  rw [quoted, String.toList_ofList]
  exact visible_cons (by decide) (visible_append
    (visible_flatMap fun c _ => visible_escapeChar c) (visible_cons (by decide) visible_nil))

theorem visible_signed (number : Int) : Visible (signed number).toList := by
  intro c member
  rcases mem_signed member with rfl | digit
  · decide
  · exact Nat.le_trans (by decide) (Char.isDigit_iff_toNat.mp digit).1

theorem visible_intercalate {mark : Char} {texts : List (List Char)} (seen : 32 ≤ mark.toNat)
    (each : ∀ text ∈ texts, Visible text) : Visible ([mark].intercalate texts) := by
  induction texts with
  | nil => exact visible_nil
  | cons first others ih =>
      have front := each first (by simp)
      cases others with
      | nil => rwa [List.intercalate_singleton]
      | cons second others =>
          have later := ih fun text member => each text (by simp [member])
          rw [List.intercalate_cons_cons, List.append_assoc]
          exact visible_append front (visible_cons seen later)

theorem visible_enclosed {opening closing : Char} {token : α → List Char} {items : List α}
    (opens : 32 ≤ opening.toNat) (closes : 32 ≤ closing.toNat)
    (each : ∀ item ∈ items, Visible (token item)) :
    Visible (enclosed opening closing token items) := by
  have ending : Visible [closing] := visible_cons closes visible_nil
  cases items with
  | nil => exact visible_cons opens ending
  | cons item rest =>
      have later : Visible (rest.flatMap fun item => ',' :: token item) :=
        visible_flatMap fun other member => visible_cons (by decide) (each other (by simp [member]))
      exact visible_cons opens
        (visible_append (each item (by simp)) (visible_append later ending))

theorem visible_compact {value : Value} (plain : Plain value) : Visible value.compact.toList := by
  induction plain with
  | integer => exact visible_signed _
  | text => exact visible_quoted _
  | list _ ih =>
      rw [toList_compact_list]
      exact visible_enclosed (by decide) (by decide) ih
  | record _ ih =>
      rw [toList_compact_record]
      refine visible_enclosed (by decide) (by decide) fun field member => ?_
      exact visible_append (visible_quoted field.1) (visible_cons (by decide) (ih field member))

theorem toList_join_rows {items : List ι} {print : ι → String} {row : ι → List Char}
    (shape : ∀ item, (print item).toList = row item ++ ['\n']) :
    (String.join (items.map print)).toList =
      (items.map row).flatMap fun row => row ++ ['\n'] := by
  rw [String.toList_join, List.flatMap_map, List.flatMap_map]
  simp only [shape]

/-- Rows without a control in them, each with a line end, are the lines. -/
theorem lines_rows {rows : List (List Char)} (visible : ∀ row ∈ rows, Visible row) :
    Text.lines (rows.flatMap fun row => row ++ ['\n']) = rows := by
  rw [Text.lines_flatMap fun row member => (visible row member).unbroken, List.map_id']

theorem lines_join {items : List ι} {print : ι → String} {row : ι → List Char}
    (shape : ∀ item, (print item).toList = row item ++ ['\n'])
    (visible : ∀ item, Visible (row item)) :
    Text.lines (String.join (items.map print)).toList = items.map row := by
  rw [toList_join_rows shape]
  exact lines_rows (List.forall_mem_map.mpr fun item _ => visible item)

end BandedPalette.Json
