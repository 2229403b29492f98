import BandedPalette.Formula
import BandedPalette.Json.Printer
import BandedPalette.Json.Structure
namespace BandedPalette

inductive DocumentFault where
  | malformed (cause : Json.Cause) (place : Json.Place)
  | unsound (fault : TableFault)
deriving DecidableEq, Repr

namespace Document

inductive Field where
  | base
  | top
  | hueCodes
deriving DecidableEq, Repr

def Field.name : Field → String
  | .base => "base"
  | .top => "top"
  | .hueCodes => "hue_codes"

def fieldNames : List String :=
  [Field.base.name, Field.top.name, Field.hueCodes.name]

def Field.ofName? (name : String) : Option Field :=
  [Field.base, .top, .hueCodes].find? fun field => field.name = name

abbrev Field.Content : Field → Type
  | .base => Vector UInt16 7
  | .top => Vector UInt16 7
  | .hueCodes => Vector UInt8 18

structure Draft where
  base : Option (Vector UInt16 7) := none
  top : Option (Vector UInt16 7) := none
  hueCodes : Option (Vector UInt8 18) := none
deriving DecidableEq, Repr

namespace Draft

def has (draft : Draft) : Field → Bool
  | .base => draft.base.isSome
  | .top => draft.top.isSome
  | .hueCodes => draft.hueCodes.isSome

def put (draft : Draft) : (field : Field) → field.Content → Draft
  | .base, bounds => { draft with base := some bounds }
  | .top, bounds => { draft with top := some bounds }
  | .hueCodes, codes => { draft with hueCodes := some codes }

def vacancies (draft : Draft) : Nat :=
  (if draft.base.isSome then 0 else 1) + (if draft.top.isSome then 0 else 1) +
    if draft.hueCodes.isSome then 0 else 1

def finish (draft : Draft) : Except Field Tables :=
  match draft.base, draft.top, draft.hueCodes with
  | some base, some top, some hueCodes => .ok ⟨base, top, hueCodes⟩
  | none, _, _ => .error .base
  | some _, none, _ => .error .top
  | some _, some _, none => .error .hueCodes

theorem has_put (draft : Draft) {field : Field} (content : field.Content) (other : Field) :
    (draft.put field content).has other = (decide (other = field) || draft.has other) := by
  cases field <;> cases other <;> rfl

theorem vacancies_put {draft : Draft} {field : Field} (vacant : draft.has field = false)
    (content : field.Content) : (draft.put field content).vacancies < draft.vacancies := by
  have by_field (draft : Draft) : draft.vacancies = (if draft.has .base then 0 else 1) +
      (if draft.has .top then 0 else 1) + if draft.has .hueCodes then 0 else 1 := rfl
  rw [by_field, by_field]
  cases field <;>
    simp only [has_put, vacant, reduceCtorEq, decide_true, decide_false, Bool.true_or,
      Bool.false_or, if_true, Bool.false_eq_true, if_false] <;>
    omega

end Draft

def word16? (value : Nat) : Option UInt16 :=
  if value < 65536 then some (UInt16.ofNat value) else none

def word8? (value : Nat) : Option UInt8 :=
  if value < 256 then some (UInt8.ofNat value) else none

open Json

def readBounds : List Char → Reading (Vector UInt16 7) :=
  readVector (readWord word16? "u16") 7 "an array of length 7"

def readCodes : List Char → Reading (Vector UInt8 18) :=
  readVector (readWord word8? "u8") 18 "an array of length 18"

def readContent : (field : Field) → List Char → Reading field.Content
  | .base => readBounds
  | .top => readBounds
  | .hueCodes => readCodes

def readField (draft : Draft) (field : Field) (text : List Char) : Reading Draft :=
  (readContent field text).map fun (content, rest) => (draft.put field content, rest)

theorem vacancies_of_readField {draft filled : Draft} {field : Field} {text rest : List Char}
    (vacant : draft.has field = false) (read : readField draft field text = .ok (filled, rest)) :
    filled.vacancies < draft.vacancies := by
  unfold readField at read
  cases taken : readContent field text with
  | error halt =>
      rw [taken] at read
      cases read
  | ok found =>
      rw [taken] at read
      cases read
      exact Draft.vacancies_put vacant found.1

def readFields (draft : Draft) (first : Bool) (text : List Char) : Reading Draft :=
  match nextKey first text with
  | .error halt => .error halt
  | .ok (.finished rest) => .ok (draft, rest)
  | .ok (.item text) =>
      match readQuoted text with
      | .error halt => .error halt
      | .ok (key, rest) =>
          match Field.ofName? (String.ofList key) with
          | none => .error (keyFault (.unknownField (String.ofList key) fieldNames) rest)
          | some field =>
              if vacant : draft.has field = false then
                match readColon rest with
                | .error halt => .error halt
                | .ok text =>
                    match read : readField draft field text with
                    | .error halt => .error halt
                    | .ok (filled, rest) =>
                        have := vacancies_of_readField vacant read
                        readFields filled false rest
              else .error (keyFault (.duplicateField field.name) rest)
termination_by draft.vacancies

def readRecord (text : List Char) : Reading Tables :=
  match readFields {} true text with
  | .error halt => .error halt
  | .ok (draft, rest) =>
      match draft.finish with
      | .ok tables => .ok (tables, rest)
      | .error field => .error (.before (.missingField field.name) rest)

/-- The next of the three lists, or the fault of a list that ends after
`count` of them. -/
def readEntry (entry : List Char → Reading α) (count : Nat) (text : List Char) : Reading α :=
  match nextItem (count == 0) text with
  | .error halt => .error halt
  | .ok (.finished rest) =>
      .error (.before (.wrongLength count "struct RawFormula with 3 elements") rest)
  | .ok (.item text) => entry text

def readList (text : List Char) : Except Halt (Tables × List Char) := do
  let (base, text) ← readEntry readBounds 0 text
  let (top, text) ← readEntry readBounds 1 text
  let (hueCodes, text) ← readEntry readCodes 2 text
  let rest ← closeList text
  return (⟨base, top, hueCodes⟩, rest)

def readTables (text : List Char) : Reading Tables :=
  match skipBlanks text with
  | [] => .error ⟨.endInValue, 0⟩
  | '[' :: rest => readList rest
  | '\x7b' :: rest => readRecord rest
  | other => .error (mismatch "struct RawFormula" other)

end Document

namespace Formula

/-- Reads a formula from characters. The tables are checked as soon as they are read,
before what follows them in the text. -/
def ofChars (text : List Char) : Except DocumentFault Formula :=
  match Document.readTables text with
  | .error halt => .error (.malformed halt.cause (halt.place text))
  | .ok (tables, rest) =>
      match Formula.ofTables tables with
      | .error fault => .error (.unsound fault)
      | .ok formula =>
          match Json.readEnd rest with
          | .error halt => .error (.malformed halt.cause (halt.place text))
          | .ok () => .ok formula

theorem ofChars_eq_ok_iff {text : List Char} {formula : Formula} :
    ofChars text = .ok formula ↔
      ∃ rest, Document.readTables text = .ok (formula.tables, rest) ∧
        Json.readEnd rest = .ok () := by
  constructor
  · intro accepted
    cases read : Document.readTables text with
    | error halt => simp [ofChars, read] at accepted
    | ok found =>
        obtain ⟨tables, rest⟩ := found
        cases checked : ofTables tables with
        | error fault => simp [ofChars, read, checked] at accepted
        | ok made =>
            cases ended : Json.readEnd rest with
            | error halt => simp [ofChars, read, checked, ended] at accepted
            | ok _ =>
                simp only [ofChars, read, checked, ended, Except.ok.injEq] at accepted
                subst accepted
                rw [ofTables_eq_ok_iff.mp checked]
                exact ⟨rest, rfl, ended⟩
  · rintro ⟨rest, read, ended⟩
    simp only [ofChars, read, ofTables_eq_ok_iff.mpr rfl, ended]

def ofDocument (text : String) : Except DocumentFault Formula :=
  ofChars text.toList

def toValue (formula : Formula) : Json.Value :=
  .record
    [(Document.Field.base.name,
        .list (formula.tables.base.toList.map fun word => .natural word.toNat)),
      (Document.Field.top.name,
        .list (formula.tables.top.toList.map fun word => .natural word.toNat)),
      (Document.Field.hueCodes.name,
        .list (formula.tables.hueCodes.toList.map fun code => .natural code.toNat))]

def toDocument (formula : Formula) : String :=
  formula.toValue.pretty

end Formula

end BandedPalette
