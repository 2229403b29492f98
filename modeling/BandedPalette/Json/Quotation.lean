import BandedPalette.Json.Fault
import BandedPalette.Numeral.Reading
namespace BandedPalette.Json

/-! Reading quoted text.

Escapes are a backslash and a letter, or a backslash, `u` and four hexadecimal
digits.  A character beyond sixteen bits takes two such numbers, a leading and
a trailing surrogate, one right after the other.
-/

def readUnit (text : List Char) : Reading Nat :=
  match text with
  | a :: b :: c :: d :: rest =>
      match Numeral.hexValue? a, Numeral.hexValue? b, Numeral.hexValue? c,
        Numeral.hexValue? d with
      | some a, some b, some c, some d => .ok (((a * 16 + b) * 16 + c) * 16 + d, rest)
      | _, _, _, _ => .error ⟨.badEscape, Text.octets text - 4⟩
  | _ =>
      if Text.octets text < 4 then .error ⟨.endInText, 0⟩
      else .error ⟨.badEscape, Text.octets text - 4⟩

def isLeading (unit : Nat) : Bool :=
  0xD800 ≤ unit && unit ≤ 0xDBFF

def isTrailing (unit : Nat) : Bool :=
  0xDC00 ≤ unit && unit ≤ 0xDFFF

def readTrailing (leading : Nat) (text : List Char) : Reading Char :=
  match text with
  | [] => .error ⟨.endInText, 0⟩
  | '\\' :: [] => .error ⟨.endInText, 0⟩
  | '\\' :: 'u' :: rest =>
      match readUnit rest with
      | .error halt => .error halt
      | .ok (trailing, rest) =>
          if isTrailing trailing then
            .ok (Char.ofNat (0x10000 + (leading - 0xD800) * 0x400 + (trailing - 0xDC00)), rest)
          else .error (.before .loneSurrogate rest)
  | '\\' :: rest => .error (.within .brokenSurrogate rest)
  | rest => .error (.within .brokenSurrogate rest)

def readNumericEscape (text : List Char) : Reading Char :=
  match readUnit text with
  | .error halt => .error halt
  | .ok (unit, rest) =>
      if isTrailing unit then .error (.before .loneSurrogate rest)
      else if isLeading unit then readTrailing unit rest
      else .ok (Char.ofNat unit, rest)

def escaped? : Char → Option Char
  | '"' => some '"'
  | '\\' => some '\\'
  | '/' => some '/'
  | 'b' => some '\x08'
  | 'f' => some '\x0c'
  | 'n' => some '\n'
  | 'r' => some '\r'
  | 't' => some '\t'
  | _ => none

def readEscape (text : List Char) : Reading Char :=
  match text with
  | [] => .error ⟨.endInText, 0⟩
  | letter :: rest =>
      if letter = 'u' then readNumericEscape rest
      else
        match escaped? letter with
        | some c => .ok (c, rest)
        | none => .error (.within .badEscape text)

theorem length_of_readUnit {text rest : List Char} {unit : Nat}
    (read : readUnit text = .ok (unit, rest)) : rest.length < text.length := by
  unfold readUnit at read
  split at read
  · split at read
    · cases read
      simp only [List.length_cons]
      omega
    · cases read
  · split at read <;> cases read

theorem length_of_readTrailing {leading : Nat} {text rest : List Char} {c : Char}
    (read : readTrailing leading text = .ok (c, rest)) : rest.length < text.length := by
  unfold readTrailing at read
  split at read
  · cases read
  · cases read
  · rename_i after
    cases unit : readUnit after with
    | error halt => simp [unit] at read
    | ok found =>
        obtain ⟨trailing, left⟩ := found
        simp only [unit] at read
        split at read
        · simp only [Except.ok.injEq, Prod.mk.injEq] at read
          have shorter := length_of_readUnit unit
          simp only [List.length_cons]
          rw [← read.2]
          omega
        · cases read
  · cases read
  · cases read

theorem length_of_readNumericEscape {text rest : List Char} {c : Char}
    (read : readNumericEscape text = .ok (c, rest)) : rest.length < text.length := by
  unfold readNumericEscape at read
  cases unit : readUnit text with
  | error halt => simp [unit] at read
  | ok found =>
      obtain ⟨first, left⟩ := found
      have shorter := length_of_readUnit unit
      simp only [unit] at read
      split at read
      · cases read
      · split at read
        · have more := length_of_readTrailing read
          omega
        · cases read
          exact shorter

/-- An escape takes in at least one character after the backslash. -/
theorem length_of_readEscape {text rest : List Char} {c : Char}
    (read : readEscape text = .ok (c, rest)) : rest.length < text.length := by
  unfold readEscape at read
  split at read
  · cases read
  · split at read
    · have shorter := length_of_readNumericEscape read
      simp only [List.length_cons]
      omega
    · split at read
      · cases read
        simp
      · cases read

def readQuoted (text : List Char) : Reading (List Char) :=
  match text with
  | [] => .error ⟨.endInText, 0⟩
  | '"' :: rest => .ok ([], rest)
  | '\\' :: escape =>
      match taken : readEscape escape with
      | .error halt => .error halt
      | .ok (c, rest) =>
          have := length_of_readEscape taken
          match readQuoted rest with
          | .error halt => .error halt
          | .ok (others, rest) => .ok (c :: others, rest)
  | c :: rest =>
      if c.toNat < 32 then .error (.before .controlCharacter rest)
      else
        match readQuoted rest with
        | .error halt => .error halt
        | .ok (others, rest) => .ok (c :: others, rest)
termination_by text.length
decreasing_by all_goals simp only [List.length_cons]; omega

end BandedPalette.Json
