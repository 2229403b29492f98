import BandedPalette.Proofs.Result
import BandedPalette.Session
namespace BandedPalette.Command

theorem run_write (path text : String) (workspace : Workspace) :
    (Workspace.surroundings.write path text).run workspace =
      match workspace.folder.write path text with
      | .ok folder => (.ok (), { workspace with folder := folder })
      | .error fault => (.error fault, workspace) := by
  change (Workspace.write path text).run workspace = _
  cases written : workspace.folder.write path text with
  | error fault =>
      simp [Workspace.write, written]
      rfl
  | ok folder =>
      simp [Workspace.write, written]
      rfl

def fileIn (folder : Folder) (use : FileUse) (path : String) (reason : ε → Failure)
    (decode : String → Except ε α) : Except Failure α :=
  match folder.read path with
  | .error fault => .error (.file use path fault)
  | .ok text => (decode text).mapError reason

def formulaIn (folder : Folder) : Option String → Except Failure Formula
  | none => .ok Formula.standard
  | some path =>
      fileIn folder .readFormula path (fun fault => .formula path (.document fault))
        Formula.ofDocument

def referenceIn (folder : Folder) : Option String → Except Failure (List Rgb)
  | none => .ok Reference.table
  | some path =>
      fileIn folder .readReference path (fun fault => .reference path (.line fault))
        Reference.ofText

theorem fileIn_of_read {folder : Folder} {path text : String} {value : α}
    {decode : String → Except ε α} (found : folder.read path = .ok text)
    (decoded : decode text = .ok value) (use : FileUse) (reason : ε → Failure) :
    fileIn folder use path reason decode = .ok value := by
  rw [fileIn, found]
  simp only [decoded, mapError_ok]

theorem formulaIn_of_read {folder : Folder} {path text : String} {formula : Formula}
    (found : folder.read path = .ok text) (decoded : Formula.ofDocument text = .ok formula) :
    formulaIn folder (some path) = .ok formula :=
  fileIn_of_read found decoded _ _

theorem referenceIn_of_read {folder : Folder} {path text : String} {colors : List Rgb}
    (found : folder.read path = .ok text) (decoded : Reference.ofText text = .ok colors) :
    referenceIn folder (some path) = .ok colors :=
  fileIn_of_read found decoded _ _

/-- The formula and its report against the reference.  The formula is read
first. -/
def comparisonIn (folder : Folder) (reference formula : Option String) :
    Except Failure (Formula × Report) := do
  let encoder ← formulaIn folder formula
  let colors ← referenceIn folder reference
  let report ← (Report.compare colors encoder.encode).mapError .refused
  return (encoder, report)

/-- The end of a run that writes no file: its whole text, or a failure. -/
def printing (folder : Folder) : Except Failure String → Outcome
  | .ok text => ⟨.ok (), ⟨folder, text⟩⟩
  | .error failure => ⟨.error failure, ⟨folder, ""⟩⟩

theorem run_bind {state : σ} (action : ExceptT Failure (StateM σ) α)
    (next : α → ExceptT Failure (StateM σ) β) :
    (action >>= next).run.run state =
      match (action.run.run state : Except Failure α × σ) with
      | (.ok value, after) => (next value).run.run after
      | (.error failure, after) => (.error failure, after) := by
  rw [ExceptT.run_bind]
  simp only [StateT.run_bind]
  cases action.run.run state with
  | mk result after => cases result <;> rfl

theorem run_require {state : σ} (reason : ε → Failure) (result : Except ε α) :
    (require (m := StateM σ) reason result).run.run state = (result.mapError reason, state) := by
  cases result <;> rfl

section Steps

variable {workspace : Workspace}

theorem run_read (path : String) :
    (liftM (Workspace.surroundings.read path) :
        ExceptT Failure (StateM Workspace) _).run.run workspace =
      (.ok (workspace.folder.read path), workspace) := rfl

theorem run_print (text : String) :
    (liftM (Workspace.surroundings.print text) :
        ExceptT Failure (StateM Workspace) _).run.run workspace =
      (.ok (), { workspace with printed := workspace.printed ++ text }) := rfl

theorem run_file (use : FileUse) (path : String) (reason : ε → Failure)
    (decode : String → Except ε α) :
    (do
        let text ← require (.file use path) (← Workspace.surroundings.read path)
        require reason (decode text) : ExceptT Failure (StateM Workspace) α).run.run workspace =
      (fileIn workspace.folder use path reason decode, workspace) := by
  rw [run_bind, run_read]
  simp only
  rw [run_bind, run_require, fileIn]
  cases workspace.folder.read path with
  | error fault => rfl
  | ok text => exact run_require reason (decode text)

theorem run_loadFormula (path : Option String) :
    (loadFormula Workspace.surroundings path).run.run workspace =
      (formulaIn workspace.folder path, workspace) := by
  cases path with
  | none => rfl
  | some path => exact run_file _ _ _ _

theorem run_loadReference (path : Option String) :
    (loadReference Workspace.surroundings path).run.run workspace =
      (referenceIn workspace.folder path, workspace) := by
  cases path with
  | none => rfl
  | some path => exact run_file _ _ _ _

theorem run_comparison (formula reference : Option String)
    (next : Formula → Report → ExceptT Failure (StateM Workspace) Unit) :
    (do
        let encoder ← loadFormula Workspace.surroundings formula
        let colors ← loadReference Workspace.surroundings reference
        let report ← require .refused (Report.compare colors encoder.encode)
        next encoder report : ExceptT Failure (StateM Workspace) Unit).run.run workspace =
      match comparisonIn workspace.folder reference formula with
      | .ok (encoder, report) => (next encoder report).run.run workspace
      | .error failure => (.error failure, workspace) := by
  rw [run_bind, run_loadFormula, comparisonIn]
  cases formulaIn workspace.folder formula with
  | error failure => rfl
  | ok encoder =>
      simp only
      rw [run_bind, run_loadReference]
      cases referenceIn workspace.folder reference with
      | error failure => rfl
      | ok colors =>
          simp only
          rw [run_bind, run_require]
          simp only [bind, Except.bind]
          cases Report.compare colors encoder.encode <;> rfl

end Steps

variable (folder : Folder) (formula reference : Option String)

theorem run_encode (format : EntryFormat) :
    (Command.encode none formula format).run folder =
      printing folder
        ((formulaIn folder formula).map fun formula => entriesText format formula Index.all) := by
  unfold Command.run perform
  rw [run_bind, run_loadFormula]
  cases formulaIn folder formula with
  | error failure => rfl
  | ok formula =>
      simp only [pure_bind]
      rw [run_print]
      simp [printing, Except.map]

theorem run_compared {command : Command} (text : Formula → Report → String)
    (performs : command.perform Workspace.surroundings = do
      let encoder ← loadFormula Workspace.surroundings formula
      let colors ← loadReference Workspace.surroundings reference
      let report ← require .refused (Report.compare colors encoder.encode)
      Workspace.surroundings.print (text encoder report)) :
    command.run folder =
      printing folder
        ((comparisonIn folder reference formula).map fun (encoder, report) =>
          text encoder report) := by
  rw [Command.run, performs, run_comparison]
  cases comparisonIn folder reference formula with
  | error failure => rfl
  | ok compared =>
      simp only
      rw [run_print]
      simp [printing, Except.map]

theorem run_analyze (top : Nat) (bands : Bool) (format : SummaryFormat) :
    (Command.analyze reference formula top bands format).run folder =
      printing folder
        ((comparisonIn folder reference formula).map fun (encoder, report) =>
          analysisText format encoder reference top bands report) :=
  run_compared folder formula reference
    (fun encoder report => analysisText format encoder reference top bands report) rfl

theorem run_series (format : SeriesFormat) :
    (Command.series reference formula format none).run folder =
      printing folder
        ((comparisonIn folder reference formula).map fun (_, report) =>
          seriesText format report) :=
  run_compared folder formula reference (fun _ report => seriesText format report) rfl

theorem run_ofArguments {arguments : List String} {command : Command}
    (named : ofArguments arguments = .ok command) (folder : Folder) :
    BandedPalette.run arguments folder = .ok (command.run folder) := by
  rw [BandedPalette.run, named]
  rfl

/-- A run that succeeds, prints a text and leaves the directory as it was. -/
def Prints (arguments : List String) (folder : Folder) (text : String) : Prop :=
  BandedPalette.run arguments folder = .ok ⟨.ok (), ⟨folder, text⟩⟩

theorem prints_of_run {arguments : List String} {folder : Folder} {command : Command}
    {text : String} (named : ofArguments arguments = .ok command)
    (ran : command.run folder = printing folder (.ok text)) : Prints arguments folder text := by
  rw [Prints, run_ofArguments named, ran]
  rfl

theorem Prints.unique {arguments : List String} {folder : Folder} {text other : String}
    (first : Prints arguments folder text) (second : Prints arguments folder other) :
    text = other := by
  have same := first.symm.trans second
  cases same
  rfl

end BandedPalette.Command
