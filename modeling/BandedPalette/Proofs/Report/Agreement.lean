import BandedPalette.Proofs.Reference.Reading
import BandedPalette.Report
namespace BandedPalette.Report

def compareText (reference : String) (encoder : Encoder) : Except Fault Report :=
  match Reference.ofText reference with
  | .error fault => .error (.line fault)
  | .ok colors => compare colors encoder

theorem unpackFrom_toWord (colors : List Rgb) (before : Nat) :
    unpackFrom before (colors.map Rgb.toWord) = .ok colors := by
  induction colors generalizing before with
  | nil => rfl
  | cons color rest ih =>
      rw [List.map_cons, unpackFrom, Rgb.ofWord_toWord, ih]
      rfl

theorem compareWords_toWord (colors : List Rgb) (encoder : Encoder) :
    compareWords (colors.map Rgb.toWord) encoder = compare colors encoder := by
  rw [compareWords, unpackFrom_toWord]

theorem compareText_of_writes {colors : List Rgb} {text : String}
    (written : Reference.Writes colors text.toList) (encoder : Encoder) :
    compareText text encoder = compare colors encoder := by
  rw [compareText, Reference.ofText_of_writes written]

theorem compare_count {colors : List Rgb} (wrong : colors.length ≠ 133) (encoder : Encoder) :
    compare colors encoder = .error (.count colors.length) := by
  rw [compare, if_neg wrong]

/-- A place in a list of words, with a word that is wider than a colour and none
such before it. -/
structure FirstWide (words : List UInt32) (position : Nat) (word : UInt32) : Prop where
  found : words[position]? = some word
  wide : 0xFFFFFF < word
  least : ∀ earlier < position, ∀ other, words[earlier]? = some other → other ≤ 0xFFFFFF

theorem FirstWide.cons {words : List UInt32} {position : Nat} {first word : UInt32}
    (narrow : first ≤ 0xFFFFFF) (rest : FirstWide words position word) :
    FirstWide (first :: words) (position + 1) word where
  found := rest.found
  wide := rest.wide
  least := by
    intro earlier before other found
    cases earlier with
    | zero =>
        cases found
        exact narrow
    | succ earlier => exact rest.least earlier (Nat.lt_of_succ_lt_succ before) other found

/-- The first word that is too wide stops the unpacking. -/
theorem exists_firstWide {words : List UInt32} (wide : ∃ word ∈ words, 0xFFFFFF < word)
    (before : Nat) :
    ∃ position word, FirstWide words position word ∧
      unpackFrom before words = .error (.entry (before + position) (.wide word)) := by
  induction words generalizing before with
  | nil =>
      obtain ⟨word, member, _⟩ := wide
      cases member
  | cons first rest ih =>
      by_cases here : 0xFFFFFF < first
      · refine ⟨0, first, ⟨rfl, here, fun _ early => absurd early (Nat.not_lt_zero _)⟩, ?_⟩
        rw [unpackFrom, Rgb.ofWord, if_pos here]
        rfl
      · have later : ∃ word ∈ rest, 0xFFFFFF < word := by
          obtain ⟨word, member, beyond⟩ := wide
          rcases List.mem_cons.mp member with rfl | member
          · exact absurd beyond here
          · exact ⟨word, member, beyond⟩
        obtain ⟨position, word, place, stopped⟩ := ih later (before + 1)
        refine ⟨position + 1, word, place.cons (UInt32.not_lt.mp here), ?_⟩
        rw [unpackFrom, Rgb.ofWord, if_neg here, stopped, Nat.add_right_comm]
        rfl

open Numeral in
/-- Colours compare as their words and as every text of them.  A wrong count is
refused by that count, and a word that is too wide by its place. -/
theorem references_agree (encoder : Encoder) :
    (∀ colors : List Rgb,
      compareWords (colors.map Rgb.toWord) encoder = compare colors encoder ∧
        (∀ text : String, Reference.Writes colors text.toList →
          Reference.ofText text = .ok colors ∧
            compareText text encoder = compare colors encoder) ∧
        (colors.length ≠ 133 →
          ∃ fault, compare colors encoder = .error fault ∧ fault.faultClass = .shape ∧
            fault.detail = "reference has " ++ decimal colors.length ++ " entries, expected 133")) ∧
      ∀ words : List UInt32, (∃ word ∈ words, 0xFFFFFF < word) →
        ∃ position word, FirstWide words position word ∧
          ∃ fault, compareWords words encoder = .error fault ∧ fault.faultClass = .shape ∧
            fault.detail = "entry " ++ decimal position ++ ": " ++
              (Fault.color (.shape (.wide word))).message := by
  refine ⟨fun colors => ⟨compareWords_toWord colors encoder, ?text, ?count⟩, ?wide⟩
  case text =>
    intro text written
    exact ⟨Reference.ofText_of_writes written, compareText_of_writes written encoder⟩
  case count =>
    intro wrong
    exact ⟨_, compare_count wrong encoder, rfl, rfl⟩
  case wide =>
    intro words wide
    obtain ⟨position, word, place, stopped⟩ := exists_firstWide wide 0
    rw [Nat.zero_add] at stopped
    refine ⟨position, word, place, .entry position (.wide word), ?_, rfl, ?_⟩
    · rw [compareWords, stopped]
    · exact String.append_assoc

end BandedPalette.Report
