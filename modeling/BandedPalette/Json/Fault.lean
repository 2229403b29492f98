import BandedPalette.Numeral.Shortest
import BandedPalette.Numeral.Writing
import BandedPalette.Text.Octets
import BandedPalette.Text.Quoted
namespace BandedPalette.Json

/-! What can be wrong with a JSON text, and where.

A reader takes in the text from the front.  When it stops at a fault it says
how many octets it has not taken in; an octet that it only looked at and found
wrong counts as taken in.  Line and column follow from that number and the text
alone, so the readers themselves keep no position.
-/

inductive Found where
  | null
  | boolean (value : Bool)
  | integer (value : Int)
  | real (value : Numeral.Binary)
  | text (value : String)
  | list
  | record
deriving DecidableEq, Repr

def realLayout : Numeral.Layout := ⟨-5, 15⟩

open Numeral in
def Found.describe : Found → String
  | .null => "null"
  | .boolean true => "boolean `true`"
  | .boolean false => "boolean `false`"
  | .integer value => "integer `" ++ signed value ++ "`"
  | .real value => "floating point `" ++ realLayout.text value ++ "`"
  | .text value => "string " ++ String.ofList (Text.quote value.toList)
  | .list => "sequence"
  | .record => "map"

inductive Cause where
  | endInValue
  | endInText
  | endInList
  | endInRecord
  | colonWanted
  | listCommaWanted
  | recordCommaWanted
  | keywordWanted
  | valueWanted
  | keyWanted
  | badEscape
  | badNumber
  | numberTooLarge
  | controlCharacter
  | loneSurrogate
  | brokenSurrogate
  | trailingComma
  | trailingCharacters
  | wrongType (found : Found) (wanted : String)
  | wrongValue (found : Int) (wanted : String)
  | wrongLength (length : Nat) (wanted : String)
  | unknownField (name : String) (known : List String)
  | duplicateField (name : String)
  | missingField (name : String)
deriving DecidableEq, Repr

open Numeral in
def Cause.message : Cause → String
  | .endInValue => "EOF while parsing a value"
  | .endInText => "EOF while parsing a string"
  | .endInList => "EOF while parsing a list"
  | .endInRecord => "EOF while parsing an object"
  | .colonWanted => "expected `:`"
  | .listCommaWanted => "expected `,` or `]`"
  | .recordCommaWanted => "expected `,` or `\x7d`"
  | .keywordWanted => "expected ident"
  | .valueWanted => "expected value"
  | .keyWanted => "key must be a string"
  | .badEscape => "invalid escape"
  | .badNumber => "invalid number"
  | .numberTooLarge => "number out of range"
  | .controlCharacter => "control character (\\u0000-\\u001F) found while parsing a string"
  | .loneSurrogate => "lone leading surrogate in hex escape"
  | .brokenSurrogate => "unexpected end of hex escape"
  | .trailingComma => "trailing comma"
  | .trailingCharacters => "trailing characters"
  | .wrongType found wanted => "invalid type: " ++ found.describe ++ ", expected " ++ wanted
  | .wrongValue found wanted =>
      "invalid value: integer `" ++ signed found ++ "`, expected " ++ wanted
  | .wrongLength length wanted =>
      "invalid length " ++ decimal length ++ ", expected " ++ wanted
  | .unknownField name known =>
      "unknown field `" ++ name ++ "`, expected one of " ++
        String.intercalate ", " (known.map fun field => "`" ++ field ++ "`")
  | .duplicateField name => "duplicate field `" ++ name ++ "`"
  | .missingField name => "missing field `" ++ name ++ "`"

structure Halt where
  cause : Cause
  unread : Nat
deriving DecidableEq, Repr

/-- A fault noticed with the rest of the text untouched. -/
def Halt.before (cause : Cause) (rest : List Char) : Halt :=
  ⟨cause, Text.octets rest⟩

/-- A fault in the next octet, or at the end of the text. -/
def Halt.within (cause : Cause) (rest : List Char) : Halt :=
  ⟨cause, Text.octets rest - 1⟩

structure Place where
  line : Nat
  column : Nat
deriving DecidableEq, Repr

/-- The place that many octets further on.  A character may be taken in
partly. -/
def Place.advance : Place → Nat → List Char → Place
  | place, _, [] => place
  | place, 0, _ :: _ => place
  | place, count + 1, c :: rest =>
      if c = '\n' then Place.advance ⟨place.line + 1, 0⟩ count rest
      else
        Place.advance ⟨place.line, place.column + min (count + 1) c.utf8Size⟩
          (count + 1 - c.utf8Size) rest

def Halt.place (halt : Halt) (text : List Char) : Place :=
  Place.advance ⟨1, 0⟩ (Text.octets text - halt.unread) text

def Place.phrase (place : Place) : String :=
  " at line " ++ Numeral.decimal place.line ++ " column " ++ Numeral.decimal place.column

def isBlank (c : Char) : Bool :=
  c = ' ' || c = '\n' || c = '\t' || c = '\r'

def skipBlanks (text : List Char) : List Char :=
  text.dropWhile isBlank

abbrev Reading (α : Type) := Except Halt (α × List Char)

end BandedPalette.Json
