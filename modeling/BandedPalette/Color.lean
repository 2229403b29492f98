import BandedPalette.Numeral.Writing
namespace BandedPalette

inductive Channel where
  | red
  | green
  | blue
deriving DecidableEq, Repr

namespace Channel

def all : List Channel :=
  [red, green, blue]

def name : Channel → String
  | red => "red"
  | green => "green"
  | blue => "blue"

end Channel

inductive ShapeFault where
  | wide (value : UInt32)
  | channel (which : Channel) (value : Int)
deriving DecidableEq, Repr

open Numeral in
def ShapeFault.detail : ShapeFault → String
  | .wide value =>
      "color 0x" ++ String.ofList ((Nat.toDigits 16 value.toNat).map Char.toUpper) ++
        " does not fit in 24 bits"
  | .channel which value =>
      which.name ++ " channel " ++ signed value ++ " outside 0..=255"

structure Rgb where
  red : UInt8
  green : UInt8
  blue : UInt8
deriving DecidableEq, Repr

namespace Rgb

def gray (level : UInt8) : Rgb :=
  ⟨level, level, level⟩

def channel (color : Rgb) : Channel → UInt8
  | .red => color.red
  | .green => color.green
  | .blue => color.blue

theorem ext_channel {left right : Rgb} (same : ∀ which, left.channel which = right.channel which) :
    left = right := by
  have red := same .red
  have green := same .green
  have blue := same .blue
  cases left
  cases right
  simp_all [channel]

def isAchromatic (color : Rgb) : Bool :=
  color.red == color.green && color.green == color.blue

def toBytes (color : Rgb) : List UInt8 :=
  [color.red, color.green, color.blue]

def unpack (word : UInt32) : Rgb :=
  ⟨(word >>> 16).toUInt8, (word >>> 8).toUInt8, word.toUInt8⟩

def ofWord (word : UInt32) : Except ShapeFault Rgb :=
  if 0xFFFFFF < word then .error (.wide word) else .ok (unpack word)

def toWord (color : Rgb) : UInt32 :=
  (color.red.toUInt32 <<< 16) ||| (color.green.toUInt32 <<< 8) ||| color.blue.toUInt32

def level (which : Channel) (value : Int) : Except ShapeFault UInt8 :=
  if 0 ≤ value ∧ value ≤ 255 then .ok (UInt8.ofNat value.toNat) else .error (.channel which value)

/-- Builds a colour from numbers of any size; the first channel that does not
fit is the one reported. -/
def ofChannels (red green blue : Int) : Except ShapeFault Rgb := do
  let red ← level .red red
  let green ← level .green green
  let blue ← level .blue blue
  return ⟨red, green, blue⟩

def text (color : Rgb) : String :=
  String.ofList ('#' :: color.toBytes.flatMap Numeral.hexPair)

end Rgb

end BandedPalette
