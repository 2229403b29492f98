import BandedPalette.Fault
import BandedPalette.Proofs.Document.Reading
import BandedPalette.Proofs.Json.Accepting
namespace BandedPalette.Document

open Json

section Values

theorem toNat_of_word16? {value : Nat} {word : UInt16} (fits : word16? value = some word) :
    word.toNat = value := by
  unfold word16? at fits
  split at fits
  · cases fits
    exact UInt16.toNat_ofNat_of_lt' (by assumption)
  · cases fits

theorem toNat_of_word8? {value : Nat} {code : UInt8} (fits : word8? value = some code) :
    code.toNat = value := by
  unfold word8? at fits
  split at fits
  · cases fits
    exact UInt8.toNat_ofNat_of_lt' (by assumption)
  · cases fits

theorem traces_readBounds :
    Traces readBounds fun words =>
      WritesList (fun word : UInt16 => WritesNatural word.toNat) words.toList :=
  traces_words (fun _ _ => toNat_of_word16?) (by decide) "u16" "an array of length 7"

theorem traces_readCodes :
    Traces readCodes fun codes =>
      WritesList (fun code : UInt8 => WritesNatural code.toNat) codes.toList :=
  traces_words (fun _ _ => toNat_of_word8?) (by decide) "u8" "an array of length 18"

def Field.Writes : (field : Field) → field.Content → List Char → Prop
  | .base, words => WritesList (fun word : UInt16 => WritesNatural word.toNat) words.toList
  | .top, words => WritesList (fun word : UInt16 => WritesNatural word.toNat) words.toList
  | .hueCodes, codes => WritesList (fun code : UInt8 => WritesNatural code.toNat) codes.toList

theorem writesValue_eq (tables : Tables) (field : Field) :
    WritesValue tables field = field.Writes (contentOf tables field) := by
  cases field <;> rfl

theorem traces_readContent (field : Field) : Traces (readContent field) field.Writes := by
  cases field with
  | base => exact traces_readBounds
  | top => exact traces_readBounds
  | hueCodes => exact traces_readCodes

end Values

/-- What a draft holds so far are values of the tables. -/
def Draft.Agrees (tables : Tables) (draft : Draft) : Prop :=
  ∀ field, draft.has field = true → draft.fill tables field = draft

theorem Draft.agrees_of_finish {tables : Tables} {draft : Draft}
    (done : draft.finish = .ok tables) : draft.Agrees tables := by
  obtain ⟨base, top, hueCodes⟩ := draft
  cases base <;> cases top <;> cases hueCodes <;> cases done
  intro field _
  cases field <;> rfl

theorem Draft.has_of_finish {tables : Tables} {draft : Draft} (done : draft.finish = .ok tables)
    (field : Field) : draft.has field = true := by
  obtain ⟨base, top, hueCodes⟩ := draft
  cases base <;> cases top <;> cases hueCodes <;> cases done
  cases field <;> rfl

theorem Draft.has_fill_self (tables : Tables) (draft : Draft) (field : Field) :
    (draft.fill tables field).has field = true := by
  simp [fill, has_put]

/-- A draft agrees with the tables before a vacant field is filled if it does
afterwards. -/
theorem Draft.Agrees.of_fill {tables : Tables} {draft : Draft} {field : Field}
    (vacant : draft.has field = false) (agrees : (draft.fill tables field).Agrees tables) :
    draft.Agrees tables := by
  intro other held
  have different : other ≠ field := by
    rintro rfl
    rw [vacant] at held
    cases held
  have same := agrees other (by rw [has_fill different, held])
  obtain ⟨base, top, hueCodes⟩ := draft
  cases field <;> cases other <;> simp_all [fill, put]

theorem Draft.eq_of_put_eq_self {draft : Draft} {field : Field} {content found : field.Content}
    (same : (draft.put field found).put field content = draft.put field found) :
    content = found := by
  cases field <;> simpa [put] using same

theorem exists_value {tables : Tables} {draft filled : Draft} {field : Field}
    {text rest : List Char} (read : readField draft field text = .ok (filled, rest))
    (agrees : filled.Agrees tables) :
    filled = draft.fill tables field ∧
      ∃ before value, text = before ++ (value ++ rest) ∧ Blanks before ∧
        WritesValue tables field value := by
  obtain ⟨⟨found, left⟩, taken, same⟩ := exists_of_map read
  cases same
  have same : contentOf tables field = found :=
    Draft.eq_of_put_eq_self (agrees field (by simp [Draft.has_put]))
  rw [writesValue_eq, same]
  exact ⟨congrArg (draft.put field) same.symm, traces_readContent field taken⟩

theorem name_of_ofName? {name : String} {field : Field} (known : Field.ofName? name = some field) :
    field.name = name := by
  simpa using List.find?_some known

/-- Fields that take a draft to a later one, none of them twice. -/
structure Completes (draft final : Draft) (fields : List Field) : Prop where
  distinct : fields.Nodup
  vacant : ∀ field ∈ fields, draft.has field = false
  covers : ∀ field, final.has field = true → draft.has field = true ∨ field ∈ fields

theorem Completes.nil (draft : Draft) : Completes draft draft [] :=
  ⟨.nil, List.forall_mem_nil _, fun _ held => .inl held⟩

theorem Completes.cons {tables : Tables} {draft final : Draft} {field : Field} {fields : List Field}
    (vacant : draft.has field = false) (later : Completes (draft.fill tables field) final fields) :
    Completes draft final (field :: fields) := by
  have fresh : field ∉ fields := by
    intro again
    have absent := later.vacant field again
    rw [Draft.has_fill_self] at absent
    cases absent
  refine ⟨List.nodup_cons.mpr ⟨fresh, later.distinct⟩, ?_, ?_⟩
  · intro other member
    rcases List.mem_cons.mp member with rfl | member
    · exact vacant
    · have different : other ≠ field := fun same => fresh (same ▸ member)
      rw [← Draft.has_fill different]
      exact later.vacant other member
  · intro other held
    by_cases same : other = field
    · exact .inr (List.mem_cons.mpr (.inl same))
    · rcases later.covers other held with before | member
      · exact .inl ((Draft.has_fill same).symm.trans before)
      · exact .inr (List.mem_cons.mpr (.inr member))

/-- What the record reader takes in is members of the fields it fills.  The white
space before a comma is read with the member after it, and so stands apart. -/
theorem items_of_readFields {tables : Tables} {draft final : Draft} {first : Bool}
    {text rest : List Char} (read : readFields draft first text = .ok (final, rest))
    (agrees : final.Agrees tables) :
    draft.Agrees tables ∧ ∃ fields gap content, text = gap ++ (content ++ '\x7d' :: rest) ∧
      Blanks gap ∧ Items (WritesMember tables) first fields content ∧
      Completes draft final fields := by
  -- Only the end of the record and a whole member do not refuse.
  fun_induction readFields draft first text generalizing rest with
  | case2 draft first text after ended =>
      cases read
      obtain ⟨gap, shape, blanks⟩ := exists_brace ended
      exact ⟨agrees, [], gap, [], shape, blanks, .nil, .nil _⟩
  | case7 draft first text after next key left quoted field known vacant inner colon filled
      following taken fewer ih =>
      obtain ⟨held, fields, gap, content, rfl, blanks, items, completes⟩ := ih read
      obtain ⟨rfl, inside, value, rfl, spaces, valued⟩ := exists_value taken held
      obtain ⟨around, rfl, middle⟩ := exists_colon colon
      obtain ⟨spelling, rfl, spelled⟩ := spells_of_readQuoted quoted
      obtain ⟨lead, before, rfl, skipped, leading⟩ := exists_key next
      have named : Quotes field.name ('"' :: (spelling ++ ['"'])) := by
        rw [name_of_ofName? known]
        exact .intro (by simpa using spelled)
      have member : Padded (WritesMember tables field)
          (before ++ ('"' :: (spelling ++ ['"']) ++ (around ++ ':' :: (inside ++ value))) ++ gap) :=
        .intro leading (.intro named middle spaces valued) blanks
      refine ⟨held.of_fill vacant, field :: fields, lead, _, ?_, skipped, .cons member items,
        completes.cons vacant⟩
      simp
  | _ => cases read

theorem order_of_completes {final : Draft} {fields : List Field}
    (completes : Completes {} final fields) (full : ∀ field, final.has field = true) :
    fields.Perm [.base, .top, .hueCodes] := by
  refine (List.perm_ext_iff_of_nodup completes.distinct (by decide)).mpr fun field => ?_
  have present : field ∈ fields := by
    rcases completes.covers field (full field) with before | member
    · cases field <;> cases before
    · exact member
  have known : field ∈ [Field.base, .top, .hueCodes] := by cases field <;> decide
  exact ⟨fun _ => known, fun _ => present⟩

theorem writes_of_readRecord {tables : Tables} {text rest : List Char}
    (read : readRecord text = .ok (tables, rest)) :
    ∃ content, text = content ++ '\x7d' :: rest ∧
      WritesTables tables ('\x7b' :: (content ++ ['\x7d'])) := by
  unfold readRecord at read
  split at read
  case h_1 => cases read
  case h_2 final left fields =>
    split at read
    case h_2 => cases read
    case h_1 done =>
      cases read
      obtain ⟨_, order, gap, content, rfl, blanks, items, completes⟩ :=
        items_of_readFields fields (Draft.agrees_of_finish done)
      have sorted := order_of_completes completes (Draft.has_of_finish done)
      have nonempty : order ≠ [] := by
        rintro rfl
        exact absurd sorted.length_eq (by decide)
      exact ⟨gap ++ content, (List.append_assoc ..).symm,
        .record sorted (items.indent nonempty blanks)⟩

theorem exists_entry {reader : List Char → Reading α} {writes : α → List Char → Prop} {count : Nat}
    {text rest : List Char} {value : α} (traces : Traces reader writes)
    (read : readEntry reader count text = .ok (value, rest)) :
    ∃ gap item, text = gap ++ (comma (count == 0) ++ (item ++ rest)) ∧ Blanks gap ∧
      Padded (writes value) item := by
  unfold readEntry at read
  split at read
  case h_1 => cases read
  case h_2 => cases read
  case h_3 next =>
    obtain ⟨gap, before, rfl, blanks, spaces⟩ := exists_item next
    obtain ⟨inside, token, rfl, inner, written⟩ := traces read
    refine ⟨gap, before ++ inside ++ token ++ [], ?_, blanks,
      .intro (blanks_append spaces inner) written blanks_nil⟩
    simp only [List.append_assoc, List.nil_append]

theorem writes_of_readList {tables : Tables} {text rest : List Char}
    (read : readList text = .ok (tables, rest)) :
    ∃ content, text = content ++ ']' :: rest ∧
      WritesTables tables ('[' :: (content ++ [']'])) := by
  unfold readList at read
  obtain ⟨⟨base, afterBase⟩, first, read⟩ := exists_of_bind read
  obtain ⟨⟨top, afterTop⟩, second, read⟩ := exists_of_bind read
  obtain ⟨⟨hueCodes, afterCodes⟩, third, read⟩ := exists_of_bind read
  obtain ⟨after, closed, same⟩ := exists_of_bind read
  cases same
  obtain ⟨lead, bounds, rfl, leading, baseWritten⟩ := exists_entry traces_readBounds first
  obtain ⟨gap, limits, rfl, middle, topWritten⟩ := exists_entry traces_readBounds second
  obtain ⟨space, codes, rfl, later, codesWritten⟩ := exists_entry traces_readCodes third
  obtain ⟨tail, rfl, trailing⟩ := exists_bracket closed
  let tables : Tables := ⟨base, top, hueCodes⟩
  have none : Items (WritesValue tables) true [] [] := .nil
  have one : Items (WritesValue tables) true [.base] _ := none.snoc leading baseWritten
  have two : Items (WritesValue tables) true [.base, .top] _ := one.snoc middle topWritten
  have three : Items (WritesValue tables) true [.base, .top, .hueCodes] _ :=
    two.snoc later codesWritten
  refine ⟨_, ?_, .list (three.pad (by decide) trailing)⟩
  simp [comma]

theorem traces_readTables : Traces readTables WritesTables := by
  intro text tables rest read
  unfold readTables at read
  split at read
  case h_1 => cases read
  case h_4 => cases read
  case h_2 opened =>
    obtain ⟨before, rfl, blanks⟩ := exists_mark opened
    obtain ⟨content, rfl, written⟩ := writes_of_readList read
    exact ⟨before, _, by simp, blanks, written⟩
  case h_3 opened =>
    obtain ⟨before, rfl, blanks⟩ := exists_mark opened
    obtain ⟨content, rfl, written⟩ := writes_of_readRecord read
    exact ⟨before, _, by simp, blanks, written⟩

end BandedPalette.Document

namespace BandedPalette.Formula

theorem writes_of_ofChars {formula : Formula} {text : List Char}
    (accepted : ofChars text = .ok formula) : Document.Writes formula.tables text := by
  obtain ⟨rest, read, ended⟩ := ofChars_eq_ok_iff.mp accepted
  obtain ⟨before, token, rfl, blanks, written⟩ := Document.traces_readTables read
  rw [← List.append_assoc]
  exact .intro blanks written (Json.blanks_of_readEnd ended)

/-- Tables are read from a text exactly when it is a document of them and they
pass the check.  Every other text is refused as a document. -/
theorem ofDocument_eq_ok_iff_writes (text : String) :
    (∀ tables : Tables, (∃ formula, ofDocument text = .ok formula ∧ formula.tables = tables) ↔
        Document.Writes tables text.toList ∧ tables.fault? = none) ∧
      ∀ fault, ofDocument text = .error fault →
        (Fault.document fault).faultClass = .document ∧
          (Fault.document fault).message = "formula format error: " ++ fault.detail := by
  refine ⟨fun tables => ⟨?accepted, ?written⟩, fun _ _ => ⟨rfl, rfl⟩⟩
  case accepted =>
    rintro ⟨formula, read, rfl⟩
    exact ⟨writes_of_ofChars read, Tables.fault?_eq_none_iff.mpr formula.sound⟩
  case written =>
    rintro ⟨written, sound⟩
    let formula : Formula := ⟨tables, Tables.fault?_eq_none_iff.mp sound⟩
    have made : ofTables tables = .ok formula := ofTables_eq_ok_iff.mpr rfl
    refine ⟨formula, ?_, rfl⟩
    rw [ofDocument, ofChars_of_writes written, made]
    rfl

end BandedPalette.Formula
