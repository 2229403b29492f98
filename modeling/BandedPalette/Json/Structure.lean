import BandedPalette.Json.Number
import BandedPalette.Json.Quotation
namespace BandedPalette.Json

def readKeyword : List Char → List Char → Except Halt (List Char)
  | [], text => .ok text
  | _ :: _, [] => .error ⟨.endInValue, 0⟩
  | letter :: letters, c :: rest =>
      if c = letter then readKeyword letters rest
      else .error (.within .keywordWanted (c :: rest))

/-- What stands at the front of a text, and the text after it.  A list or a
record is recognised by its bracket and left in place. -/
def readFound (text : List Char) : Reading Found :=
  match text with
  | 'n' :: rest => (readKeyword ['u', 'l', 'l'] rest).map (Found.null, ·)
  | 't' :: rest => (readKeyword ['r', 'u', 'e'] rest).map (Found.boolean true, ·)
  | 'f' :: rest => (readKeyword ['a', 'l', 's', 'e'] rest).map (Found.boolean false, ·)
  | '-' :: rest => (readNumber true rest).map fun (number, rest) => (number.found, rest)
  | '"' :: rest => (readQuoted rest).map fun (value, rest) => (.text (String.ofList value), rest)
  | '[' :: _ => .ok (.list, text)
  | '\x7b' :: _ => .ok (.record, text)
  | c :: _ =>
      if c.isDigit then (readNumber false text).map fun (number, rest) => (number.found, rest)
      else .error (.within .valueWanted text)
  | [] => .error (.within .valueWanted text)

/-- The fault of a value that is not of the type wanted.  A value that is
itself malformed has its own fault. -/
def mismatch (wanted : String) (text : List Char) : Halt :=
  match readFound text with
  | .ok (found, rest) => .before (.wrongType found wanted) rest
  | .error halt => halt

inductive Step where
  | item (text : List Char)
  | finished (rest : List Char)
deriving DecidableEq, Repr

/-- Looks for the next item of a list.  Every item but the first follows a
comma, and a comma is followed by an item. -/
def nextItem (first : Bool) (text : List Char) : Except Halt Step :=
  match skipBlanks text with
  | [] => .error ⟨.endInList, 0⟩
  | ']' :: rest => .ok (.finished rest)
  | c :: rest =>
      if first then .ok (.item (c :: rest))
      else if c = ',' then
        match skipBlanks rest with
        | [] => .error ⟨.endInValue, 0⟩
        | ']' :: after => .error (.before .trailingComma after)
        | item => .ok (.item item)
      else .error (.within .listCommaWanted (c :: rest))

def closeList (text : List Char) : Except Halt (List Char) :=
  match skipBlanks text with
  | [] => .error ⟨.endInList, 0⟩
  | ']' :: rest => .ok rest
  | ',' :: rest =>
      match skipBlanks rest with
      | ']' :: after => .error (.before .trailingComma after)
      | other => .error (.within .trailingCharacters other)
  | other => .error (.within .trailingCharacters other)

def nextKey (first : Bool) (text : List Char) : Except Halt Step :=
  match skipBlanks text with
  | [] => .error ⟨.endInRecord, 0⟩
  | '\x7d' :: rest => .ok (.finished rest)
  | c :: rest =>
      if first then
        if c = '"' then .ok (.item rest) else .error (.within .keyWanted (c :: rest))
      else if c = ',' then
        match skipBlanks rest with
        | [] => .error ⟨.endInValue, 0⟩
        | '"' :: after => .ok (.item after)
        | '\x7d' :: after => .error (.before .trailingComma after)
        | other => .error (.within .keyWanted other)
      else .error (.within .recordCommaWanted (c :: rest))

def readColon (text : List Char) : Except Halt (List Char) :=
  match skipBlanks text with
  | [] => .error ⟨.endInRecord, 0⟩
  | ':' :: rest => .ok rest
  | other => .error (.within .colonWanted other)

/-- A fault about a key is noticed after the white space that follows the key,
and after the end of the record if that comes next. -/
def keyFault (cause : Cause) (text : List Char) : Halt :=
  match skipBlanks text with
  | '\x7d' :: rest => .before cause rest
  | rest => .before cause rest

def readItems (item : List Char → Reading α) (size : Nat) (wanted : String) :
    (count : Nat) → List Char → Reading (Vector α count)
  | 0, text => .ok (#v[], text)
  | count + 1, text =>
      match readItems item size wanted count text with
      | .error halt => .error halt
      | .ok (items, text) =>
          match nextItem (count == 0) text with
          | .error halt => .error halt
          | .ok (.finished rest) => .error (.before (.wrongLength count wanted) rest)
          | .ok (.item text) =>
              match item text with
              | .error halt => .error halt
              | .ok (value, rest) => .ok (items.push value, rest)

def readVector (item : List Char → Reading α) (size : Nat) (wanted : String) (text : List Char) :
    Reading (Vector α size) :=
  match skipBlanks text with
  | [] => .error ⟨.endInValue, 0⟩
  | '[' :: rest =>
      match readItems item size wanted size rest with
      | .error halt => .error halt
      | .ok (items, text) => (closeList text).map (items, ·)
  | other => .error (mismatch wanted other)

def readWord (word? : Nat → Option α) (wanted : String) (text : List Char) : Reading α :=
  let number : Reading Number :=
    match skipBlanks text with
    | [] => .error ⟨.endInValue, 0⟩
    | '-' :: rest => readNumber true rest
    | c :: rest =>
        if c.isDigit then readNumber false (c :: rest) else .error (mismatch wanted (c :: rest))
  match number with
  | .error halt => .error halt
  | .ok (.natural value, rest) =>
      match word? value with
      | some word => .ok (word, rest)
      | none => .error (.before (.wrongValue value wanted) rest)
  | .ok (.negative size, rest) => .error (.before (.wrongValue (-(size : Int)) wanted) rest)
  | .ok (.real value, rest) =>
      .error (.before (.wrongType (Number.real value).found wanted) rest)

def readEnd (text : List Char) : Except Halt Unit :=
  match skipBlanks text with
  | [] => .ok ()
  | other => .error (.within .trailingCharacters other)

end BandedPalette.Json
