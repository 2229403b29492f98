import BandedPalette.Color
import BandedPalette.Numeral.Reading
import BandedPalette.Text.Blank
import BandedPalette.Text.Lines
import BandedPalette.Text.Octets
import BandedPalette.Text.Quoted
namespace BandedPalette

inductive SpellingFault where
  | notSixDigits (text : String)
  | notTriple (text : String)
  | numeral (text : String) (reason : Numeral.ReadFault)
deriving DecidableEq, Repr

def SpellingFault.detail : SpellingFault → String
  | .notSixDigits text =>
      "expected 6 hex digits, got " ++ String.ofList (Text.quote text.toList)
  | .notTriple text =>
      "expected r,g,b triple, got " ++ String.ofList (Text.quote text.toList)
  | .numeral text reason =>
      String.ofList (Text.quote text.toList) ++ ": " ++ reason.message

inductive ColorFault where
  | spelling (fault : SpellingFault)
  | shape (fault : ShapeFault)
deriving DecidableEq, Repr

def ColorFault.detail : ColorFault → String
  | .spelling fault => fault.detail
  | .shape fault => fault.detail

namespace Rgb

def afterMark : List Char → List Char
  | '#' :: digits => digits
  | '0' :: 'x' :: digits => digits
  | '0' :: 'X' :: digits => digits
  | digits => digits

def readLevel (part : List Char) : Except ColorFault Int :=
  match Numeral.readInteger Numeral.maxInteger64 part with
  | .ok value => .ok value
  | .error reason => .error (.spelling (.numeral (String.ofList part) reason))

/-- Reads the three numbers first, so that a misspelled one is reported before
one that is out of range. -/
def readTriple (text : List Char) : Except ColorFault Rgb :=
  match (Text.pieces ',' text).map Text.trim with
  | [first, second, third] => do
      let red ← readLevel first
      let green ← readLevel second
      let blue ← readLevel third
      (ofChannels red green blue).mapError .shape
  | _ => .error (.spelling (.notTriple (String.ofList text)))

def readHex (text : List Char) : Except ColorFault Rgb :=
  let digits := afterMark text
  if Text.octets digits ≠ 6 then .error (.spelling (.notSixDigits (String.ofList text)))
  else
    match Numeral.readNatural 16 Numeral.maxWord32 digits with
    | .ok value => (ofWord (UInt32.ofNat value)).mapError .shape
    | .error reason => .error (.spelling (.numeral (String.ofList text) reason))

/-- Reads a colour: six hexadecimal digits, alone or after one of the marks `#`, `0x`
and `0X`, or three decimal numbers. A comma anywhere decides for the three numbers. -/
def ofChars (text : List Char) : Except ColorFault Rgb :=
  let text := Text.trim text
  if ',' ∈ text then readTriple text else readHex text

def ofText (text : String) : Except ColorFault Rgb :=
  ofChars text.toList

end Rgb

end BandedPalette
