import BandedPalette.Json.Fault
import BandedPalette.Json.Value
namespace BandedPalette.Json

def escapeChar (c : Char) : List Char :=
  match c with
  | '"' => ['\\', '"']
  | '\\' => ['\\', '\\']
  | '\x08' => ['\\', 'b']
  | '\x0c' => ['\\', 'f']
  | '\n' => ['\\', 'n']
  | '\r' => ['\\', 'r']
  | '\t' => ['\\', 't']
  | _ =>
      if c.toNat < 32 then ['\\', 'u'] ++ Numeral.padded 16 4 c.toNat else [c]

def quoted (text : String) : String :=
  String.ofList ('"' :: (text.toList.flatMap escapeChar ++ ['"']))

/-- The shortest text of a float.  JSON has no text for one that is not
finite. -/
def realText (x : Float) : String :=
  match Numeral.Binary.ofFloat? x with
  | some value => realLayout.text value
  | none => "null"

namespace Value

mutual

def compact : Value → String
  | .integer value => Numeral.signed value
  | .real value => realText value
  | .text value => quoted value
  | .list [] => "[]"
  | .list (item :: rest) => "[" ++ item.compact ++ compactItems rest ++ "]"
  | .record [] => "\x7b\x7d"
  | .record ((name, value) :: rest) =>
      "\x7b" ++ quoted name ++ ":" ++ value.compact ++ compactFields rest ++ "\x7d"

def compactItems : List Value → String
  | [] => ""
  | item :: rest => "," ++ item.compact ++ compactItems rest

def compactFields : List (String × Value) → String
  | [] => ""
  | (name, value) :: rest =>
      "," ++ quoted name ++ ":" ++ value.compact ++ compactFields rest

end

def newline (depth : Nat) : String :=
  String.ofList ('\n' :: List.replicate (2 * depth) ' ')

mutual

def laidOut (depth : Nat) : Value → String
  | .integer value => Numeral.signed value
  | .real value => realText value
  | .text value => quoted value
  | .list [] => "[]"
  | .list (item :: rest) =>
      "[" ++ newline (depth + 1) ++ item.laidOut (depth + 1) ++ laidOutItems depth rest ++
        newline depth ++ "]"
  | .record [] => "\x7b\x7d"
  | .record ((name, value) :: rest) =>
      "\x7b" ++ newline (depth + 1) ++ quoted name ++ ": " ++ value.laidOut (depth + 1) ++
        laidOutFields depth rest ++ newline depth ++ "\x7d"

def laidOutItems (depth : Nat) : List Value → String
  | [] => ""
  | item :: rest =>
      "," ++ newline (depth + 1) ++ item.laidOut (depth + 1) ++ laidOutItems depth rest

def laidOutFields (depth : Nat) : List (String × Value) → String
  | [] => ""
  | (name, value) :: rest =>
      "," ++ newline (depth + 1) ++ quoted name ++ ": " ++ value.laidOut (depth + 1) ++
        laidOutFields depth rest

end

def pretty (value : Value) : String :=
  value.laidOut 0

end Value

end BandedPalette.Json
