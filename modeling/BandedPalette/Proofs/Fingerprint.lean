import BandedPalette.Formula.Fingerprint
import BandedPalette.Proofs.Document.Agreement
namespace BandedPalette

def wordOfOctets (low high : UInt8) : UInt16 :=
  UInt16.ofNat (low.toNat + 256 * high.toNat)

def wordsOfOctets : List UInt8 → List UInt16
  | low :: high :: rest => wordOfOctets low high :: wordsOfOctets rest
  | _ => []

def exactly? (size : Nat) (items : List α) : Option (Vector α size) :=
  if fits : items.length = size then some ⟨items.toArray, by simpa using fits⟩ else none

theorem exactly?_toList (items : Vector α size) : exactly? size items.toList = some items := by
  rw [exactly?, dif_pos items.length_toList]
  exact congrArg some (Vector.toList_inj.mp rfl)

theorem wordOfOctets_octets (word : UInt16) :
    wordOfOctets word.toUInt8 (word >>> 8).toUInt8 = word := by
  have bound := word.toNat_lt
  apply UInt16.toNat_inj.mp
  simp only [wordOfOctets, UInt16.toNat_ofNat', UInt16.toNat_toUInt8, UInt16.toNat_shiftRight,
    UInt16.reduceToNat, Nat.reduceMod, Nat.shiftRight_eq_div_pow, Nat.reducePow]
  omega

theorem wordsOfOctets_flatMap (words : List UInt16) :
    wordsOfOctets (words.flatMap wordOctets) = words := by
  induction words with
  | nil => rfl
  | cons word rest ih =>
      rw [List.flatMap_cons, wordOctets, List.cons_append, List.cons_append, List.nil_append,
        wordsOfOctets, wordOfOctets_octets, ih]

namespace Tables

def ofCanonical? (bytes : List UInt8) : Option Tables := do
  let base ← exactly? 7 (wordsOfOctets (bytes.take 14))
  let top ← exactly? 7 (wordsOfOctets ((bytes.drop 14).take 14))
  let hueCodes ← exactly? 18 (bytes.drop 28)
  return ⟨base, top, hueCodes⟩

theorem canonical_eq (tables : Tables) :
    tables.canonical = tables.base.toList.flatMap wordOctets ++
      (tables.top.toList.flatMap wordOctets ++ tables.hueCodes.toList) := by
  rw [canonical, List.flatMap_append, List.append_assoc]

/-- The bytes are read back as the tables, sound or not. -/
theorem ofCanonical?_canonical (tables : Tables) : ofCanonical? tables.canonical = some tables := by
  have base : (tables.base.toList.flatMap wordOctets).length = 14 := by
    rw [length_flatMap_wordOctets, Vector.length_toList]
  have top : (tables.top.toList.flatMap wordOctets).length = 14 := by
    rw [length_flatMap_wordOctets, Vector.length_toList]
  have first : tables.canonical.take 14 = tables.base.toList.flatMap wordOctets := by
    rw [canonical_eq, List.take_left' base]
  have further : tables.canonical.drop 14 =
      tables.top.toList.flatMap wordOctets ++ tables.hueCodes.toList := by
    rw [canonical_eq, List.drop_left' base]
  have last : tables.canonical.drop 28 = tables.hueCodes.toList := by
    rw [← List.drop_drop (i := 14) (j := 14), further, List.drop_left' top]
  rw [ofCanonical?, first, further, last, List.take_left' top, wordsOfOctets_flatMap,
    wordsOfOctets_flatMap, exactly?_toList, exactly?_toList, exactly?_toList]
  rfl

theorem canonical_inj {left right : Tables} :
    left.canonical = right.canonical ↔ left = right := by
  refine ⟨fun same => ?_, fun same => same ▸ rfl⟩
  have decoded := left.ofCanonical?_canonical
  rw [same, ofCanonical?_canonical] at decoded
  exact (Option.some.inj decoded).symm

end Tables

namespace Formula

theorem eq_iff_tables {left right : Formula} : left = right ↔ left.tables = right.tables := by
  rw [Formula.mk.injEq]

/-- A formula is named by a digest of forty-six bytes, from which its tables are
read back, so that formulas that differ never share them.  The name is the same for
the tables and for every document of them. -/
theorem canonical_identifies (left right : Formula) :
    left.tables.canonical.length = 46 ∧
      Tables.ofCanonical? left.tables.canonical = some left.tables ∧
      (left.tables.canonical = right.tables.canonical ↔ left = right) ∧
      (left.isStandard = true ↔ left.tables.canonical = standard.tables.canonical) ∧
      (∃ fits, left.fingerprint =
        Numeral.hexBytes ((Digest.ofBlock left.tables.canonical fits).take 16)) ∧
      (ofTables left.tables).map fingerprint = .ok left.fingerprint ∧
      ∀ text, Document.Writes left.tables text.toList →
        (ofDocument text).map fingerprint = .ok left.fingerprint := by
  refine ⟨left.tables.length_canonical, left.tables.ofCanonical?_canonical, ?same, ?standard,
    ⟨_, rfl⟩, ?made, ?written⟩
  case same => rw [Tables.canonical_inj, eq_iff_tables]
  case standard => rw [isStandard, decide_eq_true_iff, Tables.canonical_inj, eq_iff_tables]
  case made =>
    rw [ofTables_eq_ok_iff.mpr rfl]
    rfl
  case written =>
    intro text written
    rw [ofDocument_of_writes written]
    rfl

end Formula

end BandedPalette
