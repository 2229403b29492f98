import BandedPalette.Color.Spelling
namespace BandedPalette.Reference

/-- A line that cannot be read, counted from one over all lines. -/
structure LineFault where
  number : Nat
  fault : ColorFault
deriving DecidableEq, Repr

open Numeral in
def LineFault.detail (fault : LineFault) : String :=
  "line " ++ decimal fault.number ++ ": " ++ fault.fault.detail

/-- Whether a trimmed line is passed over: it is empty or a comment. A comment is a
lone `#`, or starts with `//` or with `#` and a space, so that a marked colour is
never taken for one. -/
def isSkipped : List Char → Bool
  | [] => true
  | ['#'] => true
  | '#' :: ' ' :: _ => true
  | '/' :: '/' :: _ => true
  | _ => false

def readLines (before : Nat) : List (List Char) → Except LineFault (List Rgb)
  | [] => .ok []
  | line :: rest =>
      let line := Text.trim line
      if isSkipped line then readLines (before + 1) rest
      else
        match Rgb.ofChars line with
        | .error fault => .error ⟨before + 1, fault⟩
        | .ok color => (readLines (before + 1) rest).map (color :: ·)

def ofChars (text : List Char) : Except LineFault (List Rgb) :=
  readLines 0 (Text.lines text)

def ofText (text : String) : Except LineFault (List Rgb) :=
  ofChars text.toList

end BandedPalette.Reference
