import BandedPalette.Json.Structure
import BandedPalette.Proofs.Json.Grammar
import BandedPalette.Proofs.Numeral.Digits
import BandedPalette.Proofs.Result
namespace BandedPalette.Json

/-- A reader that takes in a token of what it returns, after white space, and
nothing more. -/
def Traces (reader : List Char → Reading α) (writes : α → List Char → Prop) : Prop :=
  ∀ ⦃text value rest⦄, reader text = .ok (value, rest) →
    ∃ before token, text = before ++ (token ++ rest) ∧ Blanks before ∧ writes value token

theorem Traces.imp {reader : List Char → Reading α} {writes looser : α → List Char → Prop}
    (traces : Traces reader writes)
    (loosen : ∀ value token, writes value token → looser value token) :
    Traces reader looser := by
  intro text value rest read
  obtain ⟨before, token, shape, blanks, written⟩ := traces read
  exact ⟨before, token, shape, blanks, loosen value token written⟩

theorem exists_blanks (text : List Char) :
    ∃ before, text = before ++ skipBlanks text ∧ Blanks before := by
  refine ⟨text.takeWhile isBlank, List.takeWhile_append_dropWhile.symm, ?_⟩
  exact List.all_eq_true.mp List.all_takeWhile

open Numeral (toDigits_digit toDigits_ofDigitChars)

theorem digits_append_afterDigits (text : List Char) : digits text ++ afterDigits text = text :=
  List.takeWhile_append_dropWhile

theorem isDigit_of_mem_digits (text : List Char) : ∀ c ∈ digits text, c.isDigit = true :=
  List.all_eq_true.mp List.all_takeWhile

/-- When no digit is left out, the value is that of all digits. -/
theorem ofDigitChars_of_absorb {limit value number : Nat} {text : List Char}
    (taken : absorb limit value text = (number, [])) :
    number = Nat.ofDigitChars 10 text value := by
  induction text generalizing value with
  | nil =>
      cases taken
      rfl
  | cons c rest ih =>
      rw [absorb] at taken
      split at taken
      · cases taken
      · rw [Nat.ofDigitChars_cons, ih taken, Nat.mul_comm]
        rfl

/-- Digits with no zero in front of others are the digits of their value. -/
theorem writesNatural_of_digits {c : Char} {following : List Char}
    (all : ∀ other ∈ c :: following, other.isDigit = true)
    (plain : ¬ (c = '0' ∧ following ≠ [])) :
    WritesNatural (Nat.ofDigitChars 10 (c :: following) 0) (c :: following) := by
  have digit := all c (by simp)
  rw [WritesNatural, Nat.ofDigitChars_cons, Nat.mul_zero, Nat.zero_add]
  by_cases alone : following = []
  · rw [alone, Nat.ofDigitChars_nil, toDigits_digit digit]
  · have positive : 0 < c.toNat - '0'.toNat := by
      obtain ⟨least, _⟩ := Char.isDigit_iff_toNat.mp digit
      have different : c.toNat ≠ '0'.toNat := fun same =>
        plain ⟨Char.toNat_inj.mp same, alone⟩
      omega
    rw [toDigits_ofDigitChars (fun other member => all other (by simp [member])) positive,
      toDigits_digit digit]
    rfl

section Reals

variable {negative : Bool} {significand number : Nat} {power : Int} {text rest : List Char}

theorem finishReal_ne_natural :
    finishReal negative significand power text ≠ .ok (.natural number, rest) := by
  unfold finishReal
  split <;> simp

theorem readExponent_ne_natural :
    readExponent negative significand power text ≠ .ok (.natural number, rest) := by
  unfold readExponent
  split
  split
  · simp
  · split
    · dsimp only
      split
      · exact finishReal_ne_natural
      · split <;> simp
    · simp

theorem readFraction_ne_natural :
    readFraction negative significand power text ≠ .ok (.natural number, rest) := by
  unfold readFraction
  split
  · split <;> simp
  · dsimp only
    split
    · exact readExponent_ne_natural
    · exact readExponent_ne_natural
    · exact finishReal_ne_natural

end Reals

theorem eq_of_wholeNumber {negative : Bool} {value number : Nat}
    (whole : wholeNumber negative value = .natural number) :
    negative = false ∧ value = number := by
  unfold wholeNumber at whole
  split at whole
  case isTrue unsigned =>
    cases whole
    exact ⟨unsigned, rfl⟩
  case isFalse => split at whole <;> cases whole

theorem writesNatural_of_readNumber {negative : Bool} {number : Nat} {text rest : List Char}
    (read : readNumber negative text = .ok (.natural number, rest)) :
    negative = false ∧ ∃ token, text = token ++ rest ∧ WritesNatural number token := by
  unfold readNumber at read
  split at read
  case h_1 => cases read
  case h_2 c following =>
    split at read
    case isFalse => cases read
    case isTrue digit =>
      split at read
      case isTrue => cases read
      case isFalse plain =>
        have front : digits (c :: following) = c :: digits following :=
          List.takeWhile_cons_of_pos digit
        cases taken : absorb Numeral.maxWord64 0 (digits (c :: following)) with
        | mk value excess =>
            simp only [taken] at read
            split at read
            · exact absurd read readFraction_ne_natural
            · exact absurd read readExponent_ne_natural
            · exact absurd read readExponent_ne_natural
            · split at read
              · simp only [Except.ok.injEq, Prod.mk.injEq] at read
                obtain ⟨whole, rfl⟩ := read
                obtain ⟨unsigned, rfl⟩ := eq_of_wholeNumber whole
                refine ⟨unsigned, digits (c :: following), (digits_append_afterDigits _).symm, ?_⟩
                rw [ofDigitChars_of_absorb taken, front]
                exact writesNatural_of_digits (front ▸ isDigit_of_mem_digits (c :: following)) plain
              · exact absurd read finishReal_ne_natural

theorem traces_readWord (word? : Nat → Option α) (wanted : String) :
    Traces (readWord word? wanted) fun word token =>
      ∃ number, word? number = some word ∧ WritesNatural number token := by
  intro text word rest read
  obtain ⟨before, shape, blanks⟩ := exists_blanks text
  unfold readWord at read
  dsimp only at read
  split at read
  case h_1 => cases read
  case h_3 => cases read
  case h_4 => cases read
  case h_2 number left found =>
    split at read
    case h_2 => cases read
    case h_1 fits =>
      cases read
      split at found
      case h_1 => cases found
      case h_2 => exact absurd (writesNatural_of_readNumber found).1 (by decide)
      case h_3 c others _ front =>
        split at found
        case isFalse => cases found
        case isTrue =>
          obtain ⟨-, token, digits, written⟩ := writesNatural_of_readNumber found
          exact ⟨before, token, shape.trans (by rw [front, digits]), blanks, number, fits, written⟩

theorem writesUnit_of_readUnit {unit : Nat} {text rest : List Char}
    (read : readUnit text = .ok (unit, rest)) :
    ∃ middle, text = middle ++ rest ∧ WritesUnit unit middle := by
  unfold readUnit at read
  split at read
  case h_1 a b c d left =>
    split at read
    case h_1 first second third fourth =>
      cases read
      exact ⟨[a, b, c, d], rfl, .intro first second third fourth⟩
    case h_2 => cases read
  case h_2 => split at read <;> cases read

/-- Characters that may stand before any text inside quotes and add one
character to it. -/
def Adds (c : Char) (escape : List Char) : Prop :=
  ∀ ⦃value text⦄, Spells value text → Spells (c :: value) (escape ++ text)

theorem adds_of_readTrailing {leading : Nat} {front text rest : List Char} {c : Char}
    (high : WritesUnit leading front) (leads : isLeading leading = true)
    (read : readTrailing leading text = .ok (c, rest)) :
    ∃ back, text = back ++ rest ∧ Adds c ('\\' :: 'u' :: (front ++ back)) := by
  unfold readTrailing at read
  split at read
  case h_1 => cases read
  case h_2 => cases read
  case h_4 => cases read
  case h_5 => cases read
  case h_3 after =>
    cases unit : readUnit after with
    | error halt => simp [unit] at read
    | ok found =>
        obtain ⟨trailing, left⟩ := found
        obtain ⟨back, shape, low⟩ := writesUnit_of_readUnit unit
        simp only [unit] at read
        split at read
        case isFalse => cases read
        case isTrue trails =>
          simp only [Except.ok.injEq, Prod.mk.injEq] at read
          obtain ⟨rfl, rfl⟩ := read
          refine ⟨'\\' :: 'u' :: back, by simp [shape], ?_⟩
          intro value text spelled
          have paired := Spells.pair high leads low trails spelled
          have joined : '\\' :: 'u' :: (front ++ '\\' :: 'u' :: back) ++ text =
              '\\' :: 'u' :: (front ++ '\\' :: 'u' :: (back ++ text)) := by simp
          rwa [joined]

theorem adds_of_readNumericEscape {text rest : List Char} {c : Char}
    (read : readNumericEscape text = .ok (c, rest)) :
    ∃ units, text = units ++ rest ∧ Adds c ('\\' :: 'u' :: units) := by
  unfold readNumericEscape at read
  cases unit : readUnit text with
  | error halt => simp [unit] at read
  | ok found =>
      obtain ⟨first, left⟩ := found
      obtain ⟨front, shape, written⟩ := writesUnit_of_readUnit unit
      simp only [unit] at read
      split at read
      case isTrue => cases read
      case isFalse whole =>
        split at read
        case isTrue leads =>
          obtain ⟨back, rfl, adds⟩ := adds_of_readTrailing written leads read
          exact ⟨front ++ back, by simp [shape], adds⟩
        case isFalse single =>
          cases read
          refine ⟨front, shape, ?_⟩
          intro value text spelled
          exact .numeric written (Bool.eq_false_iff.mpr single) (Bool.eq_false_iff.mpr whole)
            spelled

theorem adds_of_readEscape {text rest : List Char} {c : Char}
    (read : readEscape text = .ok (c, rest)) :
    ∃ escape, text = escape ++ rest ∧ Adds c ('\\' :: escape) := by
  unfold readEscape at read
  split at read
  case h_1 => cases read
  case h_2 letter after =>
    split at read
    case isTrue numeric =>
      obtain ⟨units, rfl, adds⟩ := adds_of_readNumericEscape read
      exact ⟨letter :: units, rfl, numeric ▸ adds⟩
    case isFalse =>
      split at read
      case h_1 known =>
        cases read
        exact ⟨[letter], rfl, fun _ _ => .letter known⟩
      case h_2 => cases read

/-- The text up to the closing quote spells what is read. -/
theorem spells_of_readQuoted {text value rest : List Char}
    (read : readQuoted text = .ok (value, rest)) :
    ∃ content, text = content ++ '"' :: rest ∧ Spells value content := by
  fun_induction readQuoted text generalizing value rest with
  | case1 => cases read
  | case2 after =>
      cases read
      exact ⟨[], rfl, .nil⟩
  | case3 escape halt taken => cases read
  | case4 escape c after taken shorter halt failed ih => cases read
  | case5 escape c after taken shorter others left found ih =>
      cases read
      obtain ⟨tail, rfl, spelled⟩ := ih found
      obtain ⟨front, rfl, adds⟩ := adds_of_readEscape taken
      exact ⟨'\\' :: (front ++ tail), by simp, adds spelled⟩
  | case6 c after unquoted unescaped control => cases read
  | case7 c after unquoted unescaped visible halt failed ih => cases read
  | case8 c after unquoted unescaped visible others left found ih =>
      cases read
      obtain ⟨tail, rfl, spelled⟩ := ih found
      exact ⟨c :: tail, rfl, .plain unquoted unescaped (Nat.le_of_not_lt visible) spelled⟩

section Steps

variable {first : Bool} {text after : List Char}

theorem exists_mark {mark : Char} (found : skipBlanks text = mark :: after) :
    ∃ gap, text = gap ++ mark :: after ∧ Blanks gap := by
  obtain ⟨gap, shape, blanks⟩ := exists_blanks text
  exact ⟨gap, found ▸ shape, blanks⟩

theorem exists_item (next : nextItem first text = .ok (.item after)) :
    ∃ gap before, text = gap ++ (comma first ++ (before ++ after)) ∧ Blanks gap ∧
      Blanks before := by
  unfold nextItem at next
  split at next
  case h_1 => cases next
  case h_2 => cases next
  case h_3 c rest _ found =>
    obtain ⟨gap, shape, blanks⟩ := exists_mark found
    split at next
    case isTrue leading =>
      cases next
      exact ⟨gap, [], by simp [shape, leading, comma], blanks, blanks_nil⟩
    case isFalse further =>
      split at next
      case isFalse => cases next
      case isTrue separated =>
        split at next
        case h_1 => cases next
        case h_2 => cases next
        case h_3 =>
          cases next
          obtain ⟨before, inner, spaces⟩ := exists_blanks rest
          exact ⟨gap, before, by simp [shape, separated, further, comma, ← inner], blanks, spaces⟩

theorem exists_bracket (closed : closeList text = .ok after) :
    ∃ gap, text = gap ++ ']' :: after ∧ Blanks gap := by
  unfold closeList at closed
  split at closed
  case h_1 => cases closed
  case h_2 found =>
    cases closed
    exact exists_mark found
  case h_3 => split at closed <;> cases closed
  case h_4 => cases closed

theorem exists_key (next : nextKey first text = .ok (.item after)) :
    ∃ gap before, text = gap ++ (comma first ++ (before ++ '"' :: after)) ∧ Blanks gap ∧
      Blanks before := by
  unfold nextKey at next
  split at next
  case h_1 => cases next
  case h_2 => cases next
  case h_3 c rest _ found =>
    obtain ⟨gap, shape, blanks⟩ := exists_mark found
    split at next
    case isTrue leading =>
      split at next
      case isFalse => cases next
      case isTrue quoted =>
        cases next
        exact ⟨gap, [], by simp [shape, quoted, leading, comma], blanks, blanks_nil⟩
    case isFalse further =>
      split at next
      case isFalse => cases next
      case isTrue separated =>
        split at next
        case h_1 => cases next
        case h_3 => cases next
        case h_4 => cases next
        case h_2 quoted =>
          cases next
          obtain ⟨before, inner, spaces⟩ := exists_mark quoted
          exact ⟨gap, before, by simp [shape, separated, further, comma, inner], blanks, spaces⟩

theorem exists_brace (ended : nextKey first text = .ok (.finished after)) :
    ∃ gap, text = gap ++ '\x7d' :: after ∧ Blanks gap := by
  unfold nextKey at ended
  split at ended
  case h_1 => cases ended
  case h_2 found =>
    cases ended
    exact exists_mark found
  case h_3 =>
    split at ended
    case isTrue => split at ended <;> cases ended
    case isFalse =>
      split at ended
      case isTrue => split at ended <;> cases ended
      case isFalse => cases ended

theorem exists_colon (read : readColon text = .ok after) :
    ∃ gap, text = gap ++ ':' :: after ∧ Blanks gap := by
  unfold readColon at read
  split at read
  case h_1 => cases read
  case h_2 found =>
    cases read
    exact exists_mark found
  case h_3 => cases read

theorem blanks_of_readEnd (ended : readEnd text = .ok ()) : Blanks text := by
  obtain ⟨before, shape, blanks⟩ := exists_blanks text
  unfold readEnd at ended
  split at ended
  case h_1 nothing =>
    rw [shape, nothing, List.append_nil]
    exact blanks
  case h_2 => cases ended

end Steps

theorem items_of_readItems {reader : List Char → Reading α} {writes : α → List Char → Prop}
    {size count : Nat} {wanted : String} {text rest : List Char} {values : Vector α count}
    (traces : Traces reader writes)
    (read : readItems reader size wanted count text = .ok (values, rest)) :
    ∃ content, text = content ++ rest ∧ Items writes true values.toList content := by
  -- The reader takes the last item last, so each step puts one behind those before it.
  induction count generalizing rest with
  | zero =>
      cases read
      exact ⟨[], rfl, .nil⟩
  | succ count ih =>
      rw [readItems] at read
      split at read
      case h_1 => cases read
      case h_2 earlier left started =>
        split at read
        case h_1 => cases read
        case h_2 => cases read
        case h_3 after next =>
          split at read
          case h_1 => cases read
          case h_2 value left taken =>
            cases read
            obtain ⟨content, rfl, items⟩ := ih started
            obtain ⟨gap, before, rfl, blanks, spaces⟩ := exists_item next
            obtain ⟨inside, token, rfl, inner, written⟩ := traces taken
            have item : Padded (writes value) (before ++ inside ++ token ++ []) :=
              .intro (blanks_append spaces inner) written blanks_nil
            have more := items.snoc blanks item
            have empty : earlier.toList.isEmpty = (count == 0) := by
              cases count <;> simp [List.isEmpty_iff]
            rw [empty] at more
            refine ⟨_, ?_, Vector.toList_push ▸ more⟩
            simp only [List.append_assoc, List.nil_append]

theorem traces_readVector {reader : List Char → Reading α} {writes : α → List Char → Prop}
    {size : Nat} (traces : Traces reader writes) (positive : 0 < size) (wanted : String) :
    Traces (readVector reader size wanted) fun values => WritesList writes values.toList := by
  intro text values rest read
  unfold readVector at read
  split at read
  case h_1 => cases read
  case h_3 => cases read
  case h_2 after opened =>
    obtain ⟨before, rfl, blanks⟩ := exists_mark opened
    split at read
    case h_1 => cases read
    case h_2 items left taken =>
      obtain ⟨following, closed, same⟩ := exists_of_map read
      cases same
      obtain ⟨content, rfl, written⟩ := items_of_readItems traces taken
      obtain ⟨gap, rfl, trailing⟩ := exists_bracket closed
      have nonempty : values.toList ≠ [] := by
        apply List.ne_nil_of_length_pos
        simpa using positive
      refine ⟨before, _, ?_, blanks, .intro nonempty (written.pad nonempty trailing)⟩
      simp

theorem traces_words {word? : Nat → Option α} {number : α → Nat} {size : Nat}
    (fits : ∀ ⦃value word⦄, word? value = some word → number word = value) (positive : 0 < size)
    (kind wanted : String) :
    Traces (readVector (readWord word? kind) size wanted) fun words =>
      WritesList (fun word => WritesNatural (number word)) words.toList := by
  refine traces_readVector ((traces_readWord word? kind).imp ?_) positive wanted
  rintro word token ⟨value, fit, written⟩
  rwa [fits fit]

end BandedPalette.Json
