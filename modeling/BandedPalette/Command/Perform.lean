import BandedPalette.Color.Tint
import BandedPalette.Command.Text
import BandedPalette.Folder
namespace BandedPalette

/-! Carrying out a command.

A command sees its surroundings through three operations: reading a file,
writing a file and printing.  It reads the formula first and the reference
second, and it writes or prints after everything that can be refused.  Only the
tables of a formula are printed row by row, each looked up when its turn comes.
-/

inductive FileUse where
  | readFormula
  | readReference
  | writeFormula
  | writeSeries
deriving DecidableEq, Repr

def FileUse.phrase : FileUse → String
  | .readFormula => "read formula "
  | .readReference => "read reference "
  | .writeFormula => "write formula "
  | .writeSeries => "write series "

inductive Failure where
  | file (use : FileUse) (path : String) (fault : FileFault)
  | formula (path : String) (fault : Fault)
  | reference (path : String) (fault : Fault)
  | refused (fault : Fault)
deriving DecidableEq, Repr

def Failure.message : Failure → String
  | .file use path fault => use.phrase ++ path ++ ": " ++ fault.message
  | .formula path fault => "decode formula " ++ path ++ ": " ++ fault.message
  | .reference path fault => "parse reference " ++ path ++ ": " ++ fault.message
  | .refused fault => fault.message

structure Surroundings (m : Type → Type) where
  read : String → m (Except FileFault String)
  write : String → String → m (Except FileFault Unit)
  print : String → m Unit

namespace Command

variable {m : Type → Type} [Monad m]

def require (reason : ε → Failure) (result : Except ε α) : ExceptT Failure m α :=
  match result with
  | .ok value => pure value
  | .error fault => throw (reason fault)

def loadFormula (around : Surroundings m) : Option String → ExceptT Failure m Formula
  | none => pure Formula.standard
  | some path => do
      let text ← require (.file .readFormula path) (← around.read path)
      require (fun fault => .formula path (.document fault)) (Formula.ofDocument text)

def loadReference (around : Surroundings m) : Option String → ExceptT Failure m (List Rgb)
  | none => pure Reference.table
  | some path => do
      let text ← require (.file .readReference path) (← around.read path)
      require (fun fault => .reference path (.line fault)) (Reference.ofText text)

def save (around : Surroundings m) (use : FileUse) (path text : String) :
    ExceptT Failure m Unit := do
  require (.file use path) (← around.write path text)

def printRow (around : Surroundings m) (row : Except DomainFault String) :
    ExceptT Failure m Unit := do
  let row ← require (fun fault => .refused (.domain fault)) row
  around.print row

def printTables (around : Surroundings m) (formula : Formula) : ExceptT Failure m Unit := do
  around.print (line "--- bands ---")
  (List.finRange 7).forM fun band => printRow around (bandRowAt formula band)
  around.print (line "--- hue codes ---")
  (List.finRange 18).forM fun hue => printRow around (hueRowAt formula hue)

def perform (around : Surroundings m) : Command → ExceptT Failure m Unit
  | .encode index formula format => do
      let formula ← loadFormula around formula
      let indices ←
        match index with
        | none => pure Index.all
        | some number => do
            let index ← require (fun fault => .refused (.domain fault)) (Index.ofNat number)
            pure [index]
      around.print (entriesText format formula indices)
  | .analyze reference formula top bands format => do
      let encoder ← loadFormula around formula
      let colors ← loadReference around reference
      let report ← require .refused (Report.compare colors encoder.encode)
      around.print (analysisText format encoder reference top bands report)
  | .series reference formula format out => do
      let formula ← loadFormula around formula
      let colors ← loadReference around reference
      let report ← require .refused (Report.compare colors formula.encode)
      let body := seriesText format report
      match out with
      | some path => save around .writeSeries path body
      | none => around.print body
  | .inspect formula => do
      let formula ← loadFormula around formula
      around.print (formulaNames formula)
      printTables around formula
  | .dump out =>
      match out with
      | some path => save around .writeFormula path (Formula.standard.toDocument.push '\n')
      | none => around.print (line Formula.standard.toDocument)
  | .tint index base formula => do
      let formula ← loadFormula around formula
      let index ← require (fun fault => .refused (.domain fault)) (Index.ofNat index)
      let base ← require (fun fault => .refused (.color fault)) (Rgb.ofText base)
      let color := formula.encode index
      around.print (tintText index color base (base.tint color))

end Command

end BandedPalette
