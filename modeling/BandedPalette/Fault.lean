import BandedPalette.Color.Spelling
import BandedPalette.Formula.Document
import BandedPalette.Index
import BandedPalette.Reference.Reader
namespace BandedPalette

inductive Fault where
  | domain (fault : DomainFault)
  | color (fault : ColorFault)
  | line (fault : Reference.LineFault)
  | entry (position : Nat) (fault : ShapeFault)
  | count (found : Nat)
  | tables (fault : TableFault)
  | document (fault : DocumentFault)
deriving DecidableEq, Repr

inductive FaultClass where
  | domain
  | shape
  | tables
  | spelling
  | document
deriving DecidableEq, Repr

def FaultClass.heading : FaultClass → String
  | .domain => "domain violation: "
  | .shape => "input shape error: "
  | .tables => "degenerate table: "
  | .spelling => "color parse error: "
  | .document => "formula format error: "

def ColorFault.faultClass : ColorFault → FaultClass
  | .spelling _ => .spelling
  | .shape _ => .shape

/-- A malformed text has a place; tables that are not sound have their own
heading instead. -/
def DocumentFault.detail : DocumentFault → String
  | .malformed cause place => cause.message ++ place.phrase
  | .unsound fault => FaultClass.tables.heading ++ fault.detail

namespace Fault

def faultClass : Fault → FaultClass
  | .domain _ => .domain
  | .color fault => fault.faultClass
  | .line fault => fault.fault.faultClass
  | .entry _ _ => .shape
  | .count _ => .shape
  | .tables _ => .tables
  | .document _ => .document

def detail : Fault → String
  | .domain fault => fault.detail
  | .color fault => fault.detail
  | .line fault => fault.detail
  | .entry position fault =>
      "entry " ++ Numeral.decimal position ++ ": " ++ FaultClass.shape.heading ++ fault.detail
  | .count found => "reference has " ++ Numeral.decimal found ++ " entries, expected 133"
  | .tables fault => fault.detail
  | .document fault => fault.detail

def message (fault : Fault) : String :=
  fault.faultClass.heading ++ fault.detail

end Fault

end BandedPalette
