import BandedPalette.Formula.Document
import BandedPalette.Proofs.Json.Grammar
namespace BandedPalette.Document

/-! Which texts are documents of given tables.

A document is a record of the three fields in any order or the list of the three
values in their own.  Nothing is asked of the numbers but that they are those of
the tables, sound or not.
-/

open Json

def WritesValue (tables : Tables) : Field → List Char → Prop
  | .base => WritesList (fun word : UInt16 => WritesNatural word.toNat) tables.base.toList
  | .top => WritesList (fun word : UInt16 => WritesNatural word.toNat) tables.top.toList
  | .hueCodes => WritesList (fun code : UInt8 => WritesNatural code.toNat) tables.hueCodes.toList

inductive WritesMember (tables : Tables) (field : Field) : List Char → Prop where
  | intro (named : Quotes field.name key) (left : Blanks before) (right : Blanks after)
      (valued : WritesValue tables field value) :
      WritesMember tables field (key ++ (before ++ ':' :: (after ++ value)))

inductive WritesTables (tables : Tables) : List Char → Prop where
  | record (order : fields.Perm [Field.base, .top, .hueCodes])
      (members : Items (WritesMember tables) true fields content) :
      WritesTables tables ('\x7b' :: (content ++ ['\x7d']))
  | list (values : Items (WritesValue tables) true [.base, .top, .hueCodes] content) :
      WritesTables tables ('[' :: (content ++ [']']))

def Writes (tables : Tables) (text : List Char) : Prop :=
  Padded (WritesTables tables) text

end BandedPalette.Document
