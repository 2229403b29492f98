import BandedPalette.Proofs.Document.Grammar
import BandedPalette.Proofs.Json.Reading
namespace BandedPalette.Document

open Json

section Values

variable {text : List Char}

theorem word16?_toNat (word : UInt16) : word16? word.toNat = some word := by
  simp [word16?, word.toNat_lt]

theorem word8?_toNat (word : UInt8) : word8? word.toNat = some word := by
  simp [word8?, word.toNat_lt]

theorem takes_bounds {words : Vector UInt16 7}
    (written : WritesList (fun word : UInt16 => WritesNatural word.toNat) words.toList text) :
    Takes readBounds words text := by
  refine takes_words word16?_toNat (fun word => ?_) written
  have bound := word.toNat_lt
  simp only [Numeral.maxWord64]
  omega

theorem takes_codes {codes : Vector UInt8 18}
    (written : WritesList (fun code : UInt8 => WritesNatural code.toNat) codes.toList text) :
    Takes readCodes codes text := by
  refine takes_words word8?_toNat (fun code => ?_) written
  have bound := code.toNat_lt
  simp only [Numeral.maxWord64]
  omega

def contentOf (tables : Tables) : (field : Field) → field.Content
  | .base => tables.base
  | .top => tables.top
  | .hueCodes => tables.hueCodes

theorem takes_content {tables : Tables} {field : Field}
    (written : WritesValue tables field text) :
    Takes (readContent field) (contentOf tables field) text := by
  cases field with
  | base => exact takes_bounds written
  | top => exact takes_bounds written
  | hueCodes => exact takes_codes written

end Values

def Draft.fill (tables : Tables) (draft : Draft) (field : Field) : Draft :=
  draft.put field (contentOf tables field)

theorem Draft.has_fill {tables : Tables} {draft : Draft} {field other : Field}
    (different : other ≠ field) : (draft.fill tables field).has other = draft.has other := by
  simp [fill, has_put, different]

theorem Draft.fill_comm (tables : Tables) (draft : Draft) (field other : Field) :
    (draft.fill tables field).fill tables other = (draft.fill tables other).fill tables field := by
  cases field <;> cases other <;> rfl

/-- Fields fill a draft whatever their order. -/
theorem Draft.finish_fill {tables : Tables} {fields : List Field}
    (order : fields.Perm [.base, .top, .hueCodes]) :
    (fields.foldl (Draft.fill tables) {}).finish = .ok tables := by
  rw [order.foldl_eq' fun field _ other _ draft => fill_comm tables draft field other]
  rfl

theorem ofName?_name (field : Field) : Field.ofName? field.name = some field := by
  cases field <;> decide

theorem readField_value {tables : Tables} {draft : Draft} {field : Field}
    {before text rest : List Char} (written : WritesValue tables field text)
    (blanks : Blanks before) (ends : Ends rest) :
    readField draft field (before ++ (text ++ rest)) = .ok (draft.fill tables field, rest) := by
  rw [readField, (takes_content written).reads before rest blanks ends]
  rfl

theorem readFields_member {tables : Tables} {draft : Draft} {field : Field}
    {gap text rest : List Char} (first : Bool) (member : Padded (WritesMember tables field) text)
    (vacant : draft.has field = false) (skipped : Blanks gap) (ends : Ends rest) :
    ∃ left, Blanks left ∧
      readFields draft first (gap ++ (comma first ++ (text ++ rest))) =
        readFields (draft.fill tables field) false (left ++ rest) := by
  obtain @⟨before, _, after, blanks, written, right⟩ := member
  obtain @⟨key, around, inside, value, named, left, middle, valued⟩ := written
  obtain @⟨content, spelled⟩ := named
  let tail := around ++ ':' :: (inside ++ (value ++ (after ++ rest)))
  have shape : gap ++ (comma first ++ (before ++ ('"' :: (content ++ ['"']) ++
      (around ++ ':' :: (inside ++ value))) ++ after ++ rest)) =
      gap ++ (comma first ++ (before ++ '"' :: (content ++ '"' :: tail))) := by
    simp [tail]
  have next : nextKey first (gap ++ (comma first ++ (before ++ '"' :: (content ++ '"' :: tail)))) =
      .ok (.item (content ++ '"' :: tail)) := nextKey_quote first skipped blanks
  have quoted := readQuoted_of_spells spelled tail
  have colon : readColon tail = .ok (inside ++ (value ++ (after ++ rest))) := readColon_colon left
  have filled : readField draft field (inside ++ (value ++ (after ++ rest))) =
      .ok (draft.fill tables field, after ++ rest) :=
    readField_value valued middle (ends_append right ends)
  refine ⟨after, right, ?_⟩
  rw [shape, readFields]
  simp only [next, quoted, String.ofList_toList, ofName?_name, vacant, dif_pos, colon]
  split
  · rename_i halt failed
    rw [filled] at failed
    cases failed
  · rename_i other left found
    rw [filled] at found
    cases found
    rfl

theorem readFields_items {tables : Tables} {first : Bool} {fields : List Field}
    {text : List Char} (members : Items (WritesMember tables) first fields text)
    (distinct : fields.Nodup) (draft : Draft)
    (vacant : ∀ field ∈ fields, draft.has field = false) {gap : List Char}
    (skipped : Blanks gap) (rest : List Char) :
    readFields draft first (gap ++ (text ++ '\x7d' :: rest)) =
      .ok (fields.foldl (Draft.fill tables) draft, rest) := by
  induction members generalizing draft gap with
  | nil =>
      rw [readFields]
      simp only [List.nil_append, nextKey_brace _ skipped, List.foldl_nil]
  | @cons field front others back first member following ih =>
      obtain ⟨fresh, distinct⟩ := List.nodup_cons.mp distinct
      have ends : Ends (back ++ '\x7d' :: rest) := by
        cases following with
        | nil => exact ends_cons (by decide)
        | cons => exact ends_cons (by decide)
      obtain ⟨left, blanks, step⟩ :=
        readFields_member first member (vacant field (by simp)) skipped ends
      -- No field comes twice, so those that follow are still vacant.
      have still : ∀ other ∈ others, (draft.fill tables field).has other = false := by
        intro other found
        have different : other ≠ field := by
          rintro rfl
          exact fresh found
        rw [Draft.has_fill different]
        exact vacant other (by simp [found])
      simp only [List.append_assoc, List.foldl_cons]
      rw [step]
      exact ih distinct _ still blanks

theorem readRecord_members {tables : Tables} {fields : List Field} {content : List Char}
    (order : fields.Perm [.base, .top, .hueCodes])
    (members : Items (WritesMember tables) true fields content) (rest : List Char) :
    readRecord (content ++ '\x7d' :: rest) = .ok (tables, rest) := by
  have distinct : fields.Nodup := order.nodup_iff.mpr (by decide)
  have read := readFields_items members distinct {} (fun field _ => by cases field <;> rfl)
    blanks_nil rest
  rw [readRecord]
  simp only [List.nil_append] at read
  simp only [read, Draft.finish_fill order]

theorem readEntry_value {reader : List Char → Reading α} {value : α} {text gap rest : List Char}
    (count : Nat) (item : Padded (Takes reader value) text) (skipped : Blanks gap)
    (ends : Ends rest) :
    ∃ left, Blanks left ∧
      readEntry reader count (gap ++ (comma (count == 0) ++ (text ++ rest))) =
        .ok (value, left ++ rest) := by
  obtain ⟨after, left, blanks, next, read⟩ := item_of_padded (count == 0) item skipped ends
  refine ⟨left, blanks, ?_⟩
  rw [readEntry, next]
  exact read

theorem readList_values {tables : Tables} {content : List Char}
    (values : Items (WritesValue tables) true [.base, .top, .hueCodes] content) (rest : List Char) :
    readList (content ++ ']' :: rest) = .ok (tables, rest) := by
  cases values with
  | @cons _ base _ _ _ first values =>
  cases values with
  | @cons _ top _ _ _ second values =>
  obtain ⟨codes, rfl, third⟩ := values.single
  have comma_ends (following : List Char) : Ends (comma false ++ following) :=
    ends_cons (c := ',') (by decide)
  obtain ⟨left, blanks, read⟩ := readEntry_value 0 (first.imp fun _ => takes_bounds) blanks_nil
    (comma_ends (top ++ (comma false ++ (codes ++ ']' :: rest))))
  obtain ⟨after, spaces, next⟩ := readEntry_value 1 (second.imp fun _ => takes_bounds) blanks
    (comma_ends (codes ++ ']' :: rest))
  have closed : Ends (']' :: rest) := ends_cons (by decide)
  obtain ⟨gap, skipped, last⟩ :=
    readEntry_value 2 (third.imp fun _ => takes_codes) spaces closed
  change readEntry readBounds 0 (comma true ++ (base ++ _)) = _ at read
  change readEntry readBounds 1 (left ++ (comma false ++ _)) = _ at next
  change readEntry readCodes 2 (after ++ (comma false ++ _)) = _ at last
  simp only [readList, List.append_assoc, read, next, last, closeList_bracket skipped, bind,
    Except.bind, pure, Except.pure]

theorem readTables_of_writes {tables : Tables} {before token : List Char}
    (blanks : Blanks before) (written : WritesTables tables token) (rest : List Char) :
    readTables (before ++ (token ++ rest)) = .ok (tables, rest) := by
  cases written with
  | @record fields content order members =>
      have shape : before ++ ('\x7b' :: (content ++ ['\x7d']) ++ rest) =
          before ++ '\x7b' :: (content ++ '\x7d' :: rest) := by simp
      rw [shape, readTables, skipBlanks_token blanks (by decide)]
      exact readRecord_members order members rest
  | @list content values =>
      have shape : before ++ ('[' :: (content ++ [']']) ++ rest) =
          before ++ '[' :: (content ++ ']' :: rest) := by simp
      rw [shape, readTables, skipBlanks_token blanks (by decide)]
      exact readList_values values rest

end BandedPalette.Document

namespace BandedPalette.Formula

theorem ofChars_of_writes {tables : Tables} {text : List Char}
    (written : Document.Writes tables text) :
    ofChars text = (ofTables tables).mapError .unsound := by
  obtain @⟨before, token, after, left, written, right⟩ := written
  have read := Document.readTables_of_writes left written after
  have ended : Json.readEnd after = .ok () := by
    simp only [Json.readEnd, Json.skipBlanks_blanks right]
  rw [List.append_assoc]
  cases checked : ofTables tables with
  | error fault =>
      simp only [ofChars, read, checked]
      rfl
  | ok formula =>
      simp only [ofChars, read, checked, ended]
      rfl

end BandedPalette.Formula
