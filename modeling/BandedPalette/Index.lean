import BandedPalette.Numeral.Writing
namespace BandedPalette

/-! Places in the palette.

The palette is a grid of seven bands, from light to dark, with nineteen slots
each.  The first slot of a band is its gray, the others are its hues.
-/

abbrev Band := Fin 7

abbrev Slot := Fin 19

/-- A slot after the gray one, counted from zero. -/
abbrev Hue := Fin 18

inductive DomainFault where
  | index (number : Nat)
  | band (number : Nat)
  | slot (number : Nat)
  | hueSlot (number : Nat)
  | selector (number : Nat)
deriving DecidableEq, Repr

open Numeral in
def DomainFault.detail : DomainFault → String
  | .index number => "color index " ++ decimal number ++ " out of range (expected 0..133)"
  | .band number => "band " ++ decimal number ++ " out of range (expected 0..7)"
  | .slot number => "slot " ++ decimal number ++ " out of range (expected 0..19)"
  | .hueSlot number => "hue slot " ++ decimal number ++ " out of range (expected 1..19)"
  | .selector number => "selector " ++ decimal number ++ " out of range (expected 0..=3)"

def checkBand (number : Nat) : Except DomainFault Band :=
  if bound : number < 7 then .ok ⟨number, bound⟩ else .error (.band number)

@[simp] theorem checkBand_val (band : Band) : checkBand band.val = .ok band := by
  simp [checkBand]

def checkHue (slot : Nat) : Except DomainFault Hue :=
  if bound : 0 < slot ∧ slot < 19 then .ok ⟨slot - 1, by omega⟩
  else .error (.hueSlot slot)

@[simp] theorem checkHue_succ (hue : Hue) : checkHue (hue.val + 1) = .ok hue := by
  have bound : hue.val + 1 < 19 := by omega
  simp [checkHue, bound]

structure Index where
  position : Fin 133
deriving DecidableEq, Repr

namespace Index

def number (index : Index) : Nat :=
  index.position.val

theorem number_lt (index : Index) : index.number < 133 :=
  index.position.isLt

def ofNat (number : Nat) : Except DomainFault Index :=
  if bound : number < 133 then .ok ⟨⟨number, bound⟩⟩ else .error (.index number)

def band (index : Index) : Band :=
  ⟨index.number / 19, by have := index.number_lt; omega⟩

def slot (index : Index) : Slot :=
  ⟨index.number % 19, by omega⟩

/-- The place of a slot of a band.  The band is checked before the slot. -/
def ofParts (band slot : Nat) : Except DomainFault Index :=
  if 7 ≤ band then .error (.band band)
  else if 19 ≤ slot then .error (.slot slot)
  else ofNat (band * 19 + slot)

def hue? (index : Index) : Option Hue :=
  if gray : index.slot.val = 0 then none
  else some ⟨index.slot.val - 1, by have := index.slot.isLt; omega⟩

theorem hue?_eq_none_iff {index : Index} : index.hue? = none ↔ index.slot.val = 0 := by
  simp [hue?]

theorem hue?_eq_some_iff {index : Index} {hue : Hue} :
    index.hue? = some hue ↔ index.slot.val = hue.val + 1 := by
  have bound := hue.isLt
  unfold hue?
  split
  · simp only [reduceCtorEq, false_iff]
    omega
  · simp only [Option.some.injEq, Fin.ext_iff]
    omega

def isGray (index : Index) : Bool :=
  index.slot.val == 0

def all : List Index :=
  (List.finRange 133).map Index.mk

@[simp] theorem length_all : all.length = 133 := by
  simp [all]

theorem getElem?_all (index : Index) : all[index.number]? = some index := by
  simp [all, number]

theorem number_eq_parts (index : Index) :
    index.number = 19 * index.band.val + index.slot.val := by
  simp only [band, slot]
  omega

end Index

end BandedPalette
