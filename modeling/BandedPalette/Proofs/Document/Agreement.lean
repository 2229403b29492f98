import BandedPalette.Command.Text
import BandedPalette.Fault
import BandedPalette.Proofs.Document.Reading
import BandedPalette.Proofs.Json.Printing
namespace BandedPalette

namespace Document

open Json

def Field.value (tables : Tables) : Field → Value
  | .base => .list (tables.base.toList.map fun word => .natural word.toNat)
  | .top => .list (tables.top.toList.map fun word => .natural word.toNat)
  | .hueCodes => .list (tables.hueCodes.toList.map fun code => .natural code.toNat)

def record (tables : Tables) (fields : List Field) : Value :=
  .record (fields.map fun field => (field.name, field.value tables))

theorem toList_ne_nil {values : Vector α (size + 1)} : values.toList ≠ [] := by
  apply List.ne_nil_of_length_pos
  simp

theorem writesValue_laidOut (tables : Tables) (field : Field) (depth : Nat) :
    WritesValue tables field ((field.value tables).laidOut depth).toList := by
  cases field with
  | base => exact writesList_laidOut toList_ne_nil fun word _ => toList_natural word.toNat _
  | top => exact writesList_laidOut toList_ne_nil fun word _ => toList_natural word.toNat _
  | hueCodes => exact writesList_laidOut toList_ne_nil fun code _ => toList_natural code.toNat _

theorem writesMember_memberText (tables : Tables) (field : Field) (depth : Nat) :
    WritesMember tables field (memberText depth field.name (field.value tables)) := by
  have space : Blanks [' '] := by decide
  have written := WritesMember.intro (quotes_quoted field.name) blanks_nil space
    (writesValue_laidOut tables field depth)
  exact written

theorem writesTables_pretty (tables : Tables) {fields : List Field}
    (order : fields.Perm [.base, .top, .hueCodes]) :
    WritesTables tables (record tables fields).pretty.toList := by
  have nonempty : fields ≠ [] := by
    rintro rfl
    exact absurd order.length_eq (by decide)
  obtain ⟨content, members, text⟩ := items_laidOut nonempty fun field _ =>
    writesMember_memberText tables field 1
  rw [record, Value.pretty, text]
  exact .record order members

/-- The fields may be printed in any order, and white space put around them. -/
theorem writes_pretty (tables : Tables) {fields : List Field} {before after : String}
    (order : fields.Perm [.base, .top, .hueCodes]) (left : Blanks before.toList)
    (right : Blanks after.toList) :
    Writes tables (before ++ (record tables fields).pretty ++ after).toList := by
  rw [String.toList_append, String.toList_append]
  exact .intro left (writesTables_pretty tables order) right

end Document

namespace Formula

/-- A document is a formula exactly when the tables it writes are one, and it is
refused in the words of their check, without a place, when they are not. -/
theorem ofDocument_eq_ofTables {tables : Tables} {text : String}
    (written : Document.Writes tables text.toList) :
    ofDocument text = (ofTables tables).mapError .unsound ∧
      ∀ fault, ofTables tables = .error fault →
        (Fault.document (.unsound fault)).faultClass = .document ∧
          (Fault.document (.unsound fault)).detail = (Fault.tables fault).message :=
  ⟨ofChars_of_writes written, fun _ _ => ⟨rfl, rfl⟩⟩

def steepTables : Tables :=
  { standardTables with top := #v[256, 192, 192, 65535, 256, 192, 0] }

theorem ofDocument_steepTables :
    Document.Writes steepTables
        ("\t" ++ (Document.record steepTables [.hueCodes, .top, .base]).pretty ++ "\r\n").toList ∧
      ofDocument ("\t" ++ (Document.record steepTables [.hueCodes, .top, .base]).pretty ++ "\r\n") =
        .error (.unsound (.top 3 65535)) := by
  have order : [Document.Field.hueCodes, .top, .base].Perm [.base, .top, .hueCodes] := by decide
  have left : Json.Blanks "\t".toList := by decide
  have right : Json.Blanks "\r\n".toList := by decide
  have written := Document.writes_pretty steepTables order left right
  have fault : ofTables steepTables = .error (.top 3 65535) :=
    ofTables_eq_error_iff.mpr (by decide)
  refine ⟨written, ?_⟩
  rw [(ofDocument_eq_ofTables written).1, fault]
  rfl

theorem toDocument_eq (formula : Formula) :
    formula.toDocument = (Document.record formula.tables [.base, .top, .hueCodes]).pretty := rfl

theorem ofDocument_of_writes {formula : Formula} {text : String}
    (written : Document.Writes formula.tables text.toList) : ofDocument text = .ok formula := by
  rw [ofDocument, ofChars_of_writes written, ofTables_eq_ok_iff.mpr rfl]
  rfl

theorem ofDocument_between (formula : Formula) {before after : String}
    (left : Json.Blanks before.toList) (right : Json.Blanks after.toList) :
    ofDocument (before ++ formula.toDocument ++ after) = .ok formula := by
  rw [toDocument_eq]
  exact ofDocument_of_writes (Document.writes_pretty formula.tables (.refl _) left right)

/-- What a formula prints is read back as the formula, with any white space
before and after it, such as the line end of a file. -/
theorem ofDocument_toDocument (formula : Formula) {before after : String}
    (left : Json.Blanks before.toList) (right : Json.Blanks after.toList) :
    ofDocument (before ++ formula.toDocument ++ after) = .ok formula ∧
      ofDocument (Command.line formula.toDocument) = .ok formula := by
  have nothing : Json.Blanks "".toList := by decide
  have newline : Json.Blanks "\n".toList := by decide
  refine ⟨formula.ofDocument_between left right, ?_⟩
  rw [Command.line, ← String.empty_append (s := formula.toDocument)]
  exact formula.ofDocument_between nothing newline

theorem ofDocument_toDocument_standard :
    Json.Blanks " \t".toList ∧ Json.Blanks "\r\n\n".toList ∧
      ofDocument (" \t" ++ standard.toDocument ++ "\r\n\n") = .ok standard ∧
      ofDocument (Command.line standard.toDocument) = .ok standard := by
  have left : Json.Blanks " \t".toList := by decide
  have right : Json.Blanks "\r\n\n".toList := by decide
  exact ⟨left, right, ofDocument_toDocument standard left right⟩

end Formula

end BandedPalette
