namespace BandedPalette.Json

inductive Value where
  | integer (value : Int)
  | real (value : Float)
  | text (value : String)
  | list (items : List Value)
  | record (fields : List (String × Value))

namespace Value

def natural (value : Nat) : Value :=
  .integer value

mutual

/-- The same value with the fields of every record in the order of their
names. -/
def sorted : Value → Value
  | .list items => .list (sortedItems items)
  | .record fields =>
      .record ((sortedFields fields).mergeSort fun left right => left.1 ≤ right.1)
  | other => other

def sortedItems : List Value → List Value
  | [] => []
  | item :: rest => item.sorted :: sortedItems rest

def sortedFields : List (String × Value) → List (String × Value)
  | [] => []
  | (name, value) :: rest => (name, value.sorted) :: sortedFields rest

end

end Value

end BandedPalette.Json
