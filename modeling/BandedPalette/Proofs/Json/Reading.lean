import BandedPalette.Json.Structure
import BandedPalette.Proofs.Json.Grammar
import BandedPalette.Proofs.Numeral.Digits
namespace BandedPalette.Json

/-! What is written is read.

Every reader takes in exactly the token at the front of a text and hands back
what stands after it, so facts about tokens compose into facts about lists and
records.  A token must only not go on in what follows: that is `Ends`.
-/

/-- A text that no number goes on in. -/
def Ends (text : List Char) : Prop :=
  ∀ c, text.head? = some c → c.isDigit = false ∧ c ≠ '.' ∧ c ≠ 'e' ∧ c ≠ 'E'

/-- A reader that takes in a token, after any white space, and nothing more. -/
structure Takes (reader : List Char → Reading α) (value : α) (token : List Char) : Prop where
  starts : ∃ c rest, token = c :: rest ∧ isBlank c = false ∧ c ≠ ']'
  reads : ∀ before rest, Blanks before → Ends rest →
    reader (before ++ (token ++ rest)) = .ok (value, rest)

theorem skipBlanks_append {before : List Char} (blanks : Blanks before) (rest : List Char) :
    skipBlanks (before ++ rest) = skipBlanks rest :=
  List.dropWhile_append_of_pos blanks

theorem skipBlanks_cons {c : Char} (solid : isBlank c = false) (rest : List Char) :
    skipBlanks (c :: rest) = c :: rest := by
  simp [skipBlanks, solid]

theorem skipBlanks_token {before : List Char} {c : Char} (blanks : Blanks before)
    (solid : isBlank c = false) (rest : List Char) :
    skipBlanks (before ++ c :: rest) = c :: rest := by
  rw [skipBlanks_append blanks, skipBlanks_cons solid]

theorem skipBlanks_blanks {text : List Char} (blanks : Blanks text) : skipBlanks text = [] := by
  simpa [skipBlanks] using skipBlanks_append blanks []

theorem blank_ends {c : Char} (blank : isBlank c = true) :
    c.isDigit = false ∧ c ≠ '.' ∧ c ≠ 'e' ∧ c ≠ 'E' := by
  simp only [isBlank, Bool.or_eq_true, decide_eq_true_eq] at blank
  rcases blank with ((rfl | rfl) | rfl) | rfl <;> decide

theorem ends_append {before rest : List Char} (blanks : Blanks before) (ends : Ends rest) :
    Ends (before ++ rest) := by
  cases before with
  | nil => exact ends
  | cons c others =>
      intro head found
      cases found
      exact blank_ends (blanks c (by simp))

theorem ends_nil : Ends [] := by
  intro c front
  cases front

theorem ends_cons {c : Char} {rest : List Char}
    (mark : c.isDigit = false ∧ c ≠ '.' ∧ c ≠ 'e' ∧ c ≠ 'E') : Ends (c :: rest) := by
  intro head found
  cases found
  exact mark

open Numeral (le_ofDigitChars isDigit_of_mem_toDigits eq_zero_of_head)

theorem digits_append {text rest : List Char} (all : ∀ c ∈ text, c.isDigit = true)
    (ends : Ends rest) : digits (text ++ rest) = text := by
  have none : rest.takeWhile Char.isDigit = [] := by
    cases rest with
    | nil => rfl
    | cons c tail => simp [(ends c rfl).1]
  rw [digits, List.takeWhile_append_of_pos all, none, List.append_nil]

theorem afterDigits_append {text rest : List Char} (all : ∀ c ∈ text, c.isDigit = true)
    (ends : Ends rest) : afterDigits (text ++ rest) = rest := by
  have whole : rest.dropWhile Char.isDigit = rest := by
    cases rest with
    | nil => rfl
    | cons c tail => simp [(ends c rfl).1]
  rw [afterDigits, List.dropWhile_append_of_pos all, whole]

theorem absorb_of_le {limit value : Nat} {text : List Char}
    (within : Nat.ofDigitChars 10 text value ≤ limit) :
    absorb limit value text = (Nat.ofDigitChars 10 text value, []) := by
  induction text generalizing value with
  | nil => rfl
  | cons c rest ih =>
      rw [Nat.ofDigitChars_cons] at within ⊢
      have next : value * 10 + (c.toNat - 48) = 10 * value + (c.toNat - '0'.toNat) := by
        rw [Nat.mul_comm]
        rfl
      -- The value only grows, so the whole one within the limit bounds this one.
      have bound := Nat.le_trans (le_ofDigitChars rest _) within
      rw [absorb, next, if_neg (by omega), ih within]

theorem readNumber_toDigits {number : Nat} {rest : List Char}
    (within : number ≤ Numeral.maxWord64) (ends : Ends rest) :
    readNumber false (Nat.toDigits 10 number ++ rest) = .ok (.natural number, rest) := by
  have all := isDigit_of_mem_toDigits number
  have taken : absorb Numeral.maxWord64 0 (Nat.toDigits 10 number) = (number, []) := by
    rw [absorb_of_le (by rwa [Nat.ofDigitChars_ten_toDigits]), Nat.ofDigitChars_ten_toDigits]
  obtain ⟨c, others, shape⟩ := List.exists_cons_of_ne_nil
    (Nat.toDigits_ne_nil (n := number) (b := 10))
  -- Only zero has a zero in front, and then no digit follows it.
  have single : ¬ (c = '0' ∧ digits (others ++ rest) ≠ []) := by
    rintro ⟨rfl, more⟩
    have zero : number = 0 := eq_zero_of_head (by rw [shape]; rfl)
    subst zero
    cases shape
    exact more (digits_append (List.forall_mem_nil _) ends)
  have text := digits_append all ends
  have after := afterDigits_append all ends
  rw [shape] at all taken text after ⊢
  rw [List.cons_append] at text after ⊢
  unfold readNumber
  simp only [all c (by simp), if_true, if_neg single, text, after, taken]
  split
  · exact absurd rfl (ends _ rfl).2.1
  · exact absurd rfl (ends _ rfl).2.2.1
  · exact absurd rfl (ends _ rfl).2.2.2
  · rfl

theorem takes_readWord {word? : Nat → Option α} {wanted : String} {number : Nat} {word : α}
    {text : List Char} (fits : word? number = some word) (within : number ≤ Numeral.maxWord64)
    (written : WritesNatural number text) : Takes (readWord word? wanted) word text := by
  obtain ⟨c, others, shape⟩ := List.exists_cons_of_ne_nil
    (Nat.toDigits_ne_nil (n := number) (b := 10))
  have digit : c.isDigit = true := isDigit_of_mem_toDigits number c (by simp [shape])
  have solid : isBlank c = false := by
    cases blank : isBlank c with
    | false => rfl
    | true => simp [(blank_ends blank).1] at digit
  have unsigned : c ≠ '-' := by
    rintro rfl
    exact absurd digit (by decide)
  have unclosed : c ≠ ']' := by
    rintro rfl
    exact absurd digit (by decide)
  refine ⟨⟨c, others, written.trans shape, solid, unclosed⟩, ?_⟩
  intro before rest blanks ends
  have number := readNumber_toDigits within ends
  rw [shape] at number
  rw [written, shape]
  unfold readWord
  rw [List.cons_append] at number
  simp only [skipBlanks_append blanks, List.cons_append, skipBlanks_cons solid, digit, if_true,
    number, fits]

theorem readUnit_of_writes {unit : Nat} {middle : List Char} (written : WritesUnit unit middle)
    (rest : List Char) : readUnit (middle ++ rest) = .ok (unit, rest) := by
  cases written with
  | intro first second third fourth => simp [readUnit, first, second, third, fourth]

theorem readEscape_letter {letter c : Char} (known : escaped? letter = some c)
    (rest : List Char) : readEscape (letter :: rest) = .ok (c, rest) := by
  have short : letter ≠ 'u' := by
    rintro rfl
    simp [escaped?] at known
  simp only [readEscape, if_neg short, known]

theorem readEscape_numeric {unit : Nat} {middle : List Char} (digits : WritesUnit unit middle)
    (single : isLeading unit = false) (whole : isTrailing unit = false) (rest : List Char) :
    readEscape ('u' :: (middle ++ rest)) = .ok (Char.ofNat unit, rest) := by
  simp [readEscape, readNumericEscape, readUnit_of_writes digits, single, whole]

theorem readEscape_pair {leading trailing : Nat} {front back : List Char}
    (high : WritesUnit leading front) (leads : isLeading leading = true)
    (low : WritesUnit trailing back) (trails : isTrailing trailing = true) (rest : List Char) :
    readEscape ('u' :: (front ++ '\\' :: 'u' :: (back ++ rest))) =
      .ok (Char.ofNat (0x10000 + (leading - 0xD800) * 0x400 + (trailing - 0xDC00)), rest) := by
  have first : isTrailing leading = false := by
    simp only [isLeading, isTrailing, Bool.and_eq_true, Bool.and_eq_false_iff,
      decide_eq_true_eq, decide_eq_false_iff_not] at leads ⊢
    omega
  simp [readEscape, readNumericEscape, readTrailing, readUnit_of_writes high,
    readUnit_of_writes low, first, leads, trails]

theorem readQuoted_plain {c : Char} (unquoted : c ≠ '"') (unescaped : c ≠ '\\')
    (visible : 32 ≤ c.toNat) (rest : List Char) :
    readQuoted (c :: rest) =
      (readQuoted rest).map fun (others, rest) => (c :: others, rest) := by
  rw [readQuoted]
  · rw [if_neg (by omega)]
    cases readQuoted rest <;> rfl
  · simpa using unquoted
  · simpa using unescaped

theorem readQuoted_escape {c : Char} {escape rest : List Char}
    (taken : readEscape escape = .ok (c, rest)) :
    readQuoted ('\\' :: escape) =
      (readQuoted rest).map fun (others, rest) => (c :: others, rest) := by
  rw [readQuoted]
  split
  · rename_i halt failed
    rw [taken] at failed
    cases failed
  · rename_i other left found
    rw [taken] at found
    cases found
    cases readQuoted rest <;> rfl

theorem readQuoted_of_spells {value text : List Char} (spelled : Spells value text)
    (rest : List Char) : readQuoted (text ++ '"' :: rest) = .ok (value, rest) := by
  induction spelled with
  | nil => simp [readQuoted]
  | plain unquoted unescaped visible _ ih =>
      rw [List.cons_append, readQuoted_plain unquoted unescaped visible, ih]
      rfl
  | letter known _ ih =>
      rw [List.cons_append, List.cons_append, readQuoted_escape (readEscape_letter known _), ih]
      rfl
  | numeric digits single whole _ ih =>
      simp only [List.cons_append, List.append_assoc]
      rw [readQuoted_escape (readEscape_numeric digits single whole _), ih]
      rfl
  | pair high leads low trails _ ih =>
      simp only [List.cons_append, List.append_assoc]
      rw [readQuoted_escape (readEscape_pair high leads low trails _), ih]
      rfl

section Steps

variable {gap before rest : List Char} {c : Char}

theorem nextItem_item (first : Bool) (skipped : Blanks gap) (blanks : Blanks before)
    (solid : isBlank c = false) (unclosed : c ≠ ']') :
    nextItem first (gap ++ (comma first ++ (before ++ c :: rest))) = .ok (.item (c :: rest)) := by
  have token := skipBlanks_token blanks solid rest
  cases first with
  | true => simp [comma, nextItem, skipBlanks_append skipped, token]
  | false => simp [comma, nextItem, skipBlanks_token skipped (c := ',') rfl, token, unclosed]

theorem nextKey_quote (first : Bool) (skipped : Blanks gap) (blanks : Blanks before) :
    nextKey first (gap ++ (comma first ++ (before ++ '"' :: rest))) = .ok (.item rest) := by
  have token := skipBlanks_token blanks (c := '"') rfl rest
  cases first with
  | true => simp [comma, nextKey, skipBlanks_append skipped, token]
  | false => simp [comma, nextKey, skipBlanks_token skipped (c := ',') rfl, token]

theorem nextKey_brace (first : Bool) (skipped : Blanks gap) :
    nextKey first (gap ++ '\x7d' :: rest) = .ok (.finished rest) := by
  simp [nextKey, skipBlanks_token skipped (c := '\x7d') rfl]

theorem closeList_bracket (skipped : Blanks gap) :
    closeList (gap ++ ']' :: rest) = .ok rest := by
  simp [closeList, skipBlanks_token skipped (c := ']') rfl]

theorem readColon_colon (skipped : Blanks gap) : readColon (gap ++ ':' :: rest) = .ok rest := by
  simp [readColon, skipBlanks_token skipped (c := ':') rfl]

end Steps

/-- One more item of a list, which leaves at most white space before what
follows. -/
theorem item_of_padded {reader : List Char → Reading α} {value : α} {text gap rest : List Char}
    (first : Bool) (item : Padded (Takes reader value) text) (skipped : Blanks gap)
    (ends : Ends rest) :
    ∃ after left, Blanks left ∧
      nextItem first (gap ++ (comma first ++ (text ++ rest))) = .ok (.item after) ∧
      reader after = .ok (value, left ++ rest) := by
  obtain @⟨before, middle, after, blanks, token, right⟩ := item
  obtain ⟨c, others, rfl, solid, unclosed⟩ := token.starts
  refine ⟨c :: (others ++ (after ++ rest)), after, right, ?_, ?_⟩
  · simpa using nextItem_item first skipped blanks solid unclosed
  · simpa using token.reads [] _ blanks_nil (ends_append right ends)

theorem readItems_of_items {reader : List Char → Reading α} {count : Nat}
    {values : Vector α count} {text rest : List Char} (size : Nat) (wanted : String)
    (items : Items (Takes reader) true values.toList text) (ends : 0 < count → Ends rest) :
    ∃ gap, Blanks gap ∧
      readItems reader size wanted count (text ++ rest) = .ok (values, gap ++ rest) := by
  -- The reader splits off the last item, so the induction is on the count and
  -- what stands before the last item ends where that item starts.
  induction count generalizing text rest with
  | zero =>
      have empty : values.toList = [] := List.eq_nil_of_length_eq_zero (by simp)
      rw [empty] at items
      cases items
      exact ⟨[], blanks_nil, by simp [readItems, Vector.eq_empty]⟩
  | succ count ih =>
      rw [← values.push_pop_back, Vector.toList_push] at items
      obtain ⟨front, back, rfl, before, last⟩ := items.split
      have empty : (true && values.pop.toList.isEmpty) = (count == 0) := by
        cases count <;> simp [List.isEmpty_iff]
      obtain ⟨item, rfl, padded⟩ := (empty ▸ last).single
      have marked : 0 < count → Ends (comma (count == 0) ++ (item ++ rest)) := by
        intro positive
        have later : (count == 0) = false := by
          rw [beq_eq_false_iff_ne]
          omega
        rw [later]
        exact ends_cons (c := ',') (by decide)
      obtain ⟨gap, skipped, started⟩ := ih before marked
      obtain ⟨after, left, blanks, next, read⟩ :=
        item_of_padded (count == 0) padded skipped (ends (by omega))
      refine ⟨left, blanks, ?_⟩
      simp only [List.append_assoc]
      rw [readItems, started]
      simp only [next, read, Vector.push_pop_back]

theorem takes_readVector {reader : List Char → Reading α} {size : Nat} {wanted : String}
    {values : Vector α size} {text : List Char}
    (written : WritesList (Takes reader) values.toList text) :
    Takes (readVector reader size wanted) values text := by
  obtain @⟨content, nonempty, items⟩ := written
  refine ⟨⟨'[', content ++ [']'], rfl, by decide, by decide⟩, ?_⟩
  intro before rest blanks ends
  have closed : Ends (']' :: rest) := ends_cons (by decide)
  obtain ⟨gap, skipped, read⟩ := readItems_of_items size wanted items fun _ => closed
  simp [readVector, skipBlanks_token blanks (c := '[') rfl, read, closeList_bracket skipped,
    Except.map]

theorem takes_words {word? : Nat → Option α} {number : α → Nat} {kind wanted : String}
    {size : Nat} {words : Vector α size} {text : List Char}
    (fits : ∀ word, word? (number word) = some word)
    (within : ∀ word, number word ≤ Numeral.maxWord64)
    (written : WritesList (fun word => WritesNatural (number word)) words.toList text) :
    Takes (readVector (readWord word? kind) size wanted) words text := by
  obtain ⟨nonempty, items⟩ := written
  refine takes_readVector (.intro nonempty (items.imp ?_))
  intro word _ digits written
  exact takes_readWord (fits word) (within word) written

end BandedPalette.Json
