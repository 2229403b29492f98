import BandedPalette.Proofs.Command.Effects
import BandedPalette.Proofs.Command.Inserting
import BandedPalette.Proofs.Command.SelfComparison
namespace BandedPalette.Command

/-- The end of a run that puts its whole text in a file, or a failure. -/
def saving (folder : Folder) (use : FileUse) (path : String) : Except Failure String → Outcome
  | .error failure => ⟨.error failure, ⟨folder, ""⟩⟩
  | .ok text =>
      match folder.write path text with
      | .ok after => ⟨.ok (), ⟨after, ""⟩⟩
      | .error fault => ⟨.error (.file use path fault), ⟨folder, ""⟩⟩

theorem run_save {workspace : Workspace} (use : FileUse) (path text : String) :
    (save Workspace.surroundings use path text).run.run workspace =
      match workspace.folder.write path text with
      | .ok folder => (.ok (), { workspace with folder := folder })
      | .error fault => (.error (.file use path fault), workspace) := by
  rw [save, run_bind, run_lift, run_write]
  cases workspace.folder.write path text <;> rfl

theorem line_eq_push (text : String) : line text = text.push '\n' := by
  apply String.toList_injective
  simp [line]

section Runs

variable (folder : Folder) (path : String)

theorem run_series_file (reference formula : Option String) (format : SeriesFormat) :
    (Command.series reference formula format (some path)).run folder =
      saving folder .writeSeries path
        ((comparisonIn folder reference formula).map fun (_, report) =>
          seriesText format report) := by
  unfold Command.run perform
  rw [run_comparison]
  cases comparisonIn folder reference formula with
  | error failure => rfl
  | ok compared =>
      simp only [Except.map, saving]
      rw [run_save]
      cases folder.write path (seriesText format compared.2) <;> rfl

theorem run_dump :
    (Command.dump none).run folder =
      printing folder (.ok (line Formula.standard.toDocument)) := by
  unfold Command.run perform
  simp only
  rw [run_print]
  simp [printing]

theorem run_dump_file :
    (Command.dump (some path)).run folder =
      saving folder .writeFormula path (.ok (line Formula.standard.toDocument)) := by
  unfold Command.run perform
  simp only [saving, line_eq_push]
  rw [run_save]
  cases folder.write path (Formula.standard.toDocument.push '\n') <;> rfl

end Runs

/-- What is printed without an output file is what is written with one. -/
theorem exists_run_redirect {command : Command} (folder : Folder)
    (writes : .out ∈ command.settings) (unwritten : command.out? = none) :
    ∃ use body, command.run folder = printing folder body ∧
      ∀ path, (command.redirect path).run folder = saving folder use path body := by
  cases command with
  | series reference formula format out =>
      cases unwritten
      exact ⟨_, _, run_series folder formula reference format,
        fun path => run_series_file folder path reference formula format⟩
  | dump out =>
      cases unwritten
      exact ⟨_, _, run_dump folder, run_dump_file folder⟩
  | _ => simp [settings] at writes

theorem keeps_print (text : String) :
    Keeps Workspace.folder
      (liftM (Workspace.surroundings.print text) : ExceptT Failure (StateM Workspace) Unit) := by
  intro before result after ran
  rw [run_print] at ran
  cases ran
  rfl

theorem keeps_printRow (row : Except DomainFault String) :
    Keeps Workspace.folder (printRow Workspace.surroundings row) :=
  (keeps_require _ _ _).bind fun text => keeps_print text

theorem keeps_printTables (formula : Formula) :
    Keeps Workspace.folder (printTables Workspace.surroundings formula) :=
  (keeps_print _).bind fun _ => (keeps_forM fun _ _ => keeps_printRow _).bind fun _ =>
    (keeps_print _).bind fun _ => keeps_forM fun _ _ => keeps_printRow _

theorem keeps_perform {command : Command} (unwritten : command.out? = none) :
    Keeps Workspace.folder (command.perform Workspace.surroundings) := by
  have loads := careful_surroundings.keeps_loadFormula Workspace.folder
  have refers := careful_surroundings.keeps_loadReference Workspace.folder
  cases command with
  | encode index formula format =>
      refine (loads formula).bind fun formula => ?_
      cases index with
      | none => exact keeps_print _
      | some number => exact (keeps_require _ _ _).bind fun _ => keeps_print _
  | analyze reference formula top bands format =>
      exact (loads formula).bind fun _ => (refers reference).bind fun _ =>
        (keeps_require _ _ _).bind fun _ => keeps_print _
  | series reference formula format out =>
      cases unwritten
      exact (loads formula).bind fun _ => (refers reference).bind fun _ =>
        (keeps_require _ _ _).bind fun _ => keeps_print _
  | inspect formula =>
      exact (loads formula).bind fun formula =>
        (keeps_print _).bind fun _ => keeps_printTables formula
  | dump out =>
      cases unwritten
      exact keeps_print _
  | tint index base formula =>
      exact (loads formula).bind fun _ => (keeps_require _ _ _).bind fun _ =>
        (keeps_require _ _ _).bind fun _ => keeps_print _

theorem folder_run {command : Command} (unwritten : command.out? = none) (folder : Folder) :
    (command.run folder).workspace.folder = folder :=
  keeps_perform unwritten ⟨folder, ""⟩ _ _ rfl

/-- What a command prints is what it writes to a file with the option for one,
which changes no other file; the file may be one that the command reads.
Without that option no file is changed. -/
theorem file_output_eq_printed :
    (∀ arguments command folder outcome path, ofArguments arguments = .ok command →
      .out ∈ command.settings → command.out? = none →
      BandedPalette.run arguments folder = .ok outcome → outcome.result = .ok () →
      IsPlain path → Folder.FileName path →
        ofArguments (redirectArguments path arguments) = .ok (command.redirect path) ∧
        ∀ others, ofArguments others = .ok (command.redirect path) →
          ∃ after, BandedPalette.run others folder = .ok ⟨.ok (), ⟨after, ""⟩⟩ ∧
            ∀ name, after.lookup name =
              if name = path then some outcome.workspace.printed.toUTF8
              else folder.lookup name) ∧
      ∀ arguments command folder outcome, ofArguments arguments = .ok command →
        command.out? = none → BandedPalette.run arguments folder = .ok outcome →
          outcome.workspace.folder = folder := by
  constructor
  · intro arguments command folder outcome path named writes unwritten ran done plain fileName
    obtain ⟨use, body, prints, saves⟩ := exists_run_redirect folder writes unwritten
    obtain rfl : command.run folder = outcome :=
      Except.ok.inj ((run_ofArguments named folder).symm.trans ran)
    rw [prints] at done ⊢
    cases body with
    | error failure => cases done
    | ok text =>
        refine ⟨ofArguments_redirect plain named writes unwritten, fun others again => ?_⟩
        refine ⟨folder.insert path text.toUTF8, ?_, fun name => folder.lookup_insert path name _⟩
        rw [run_ofArguments again, saves]
        simp only [saving, fileName.write]
  · intro arguments command folder outcome named unwritten ran
    obtain rfl : command.run folder = outcome :=
      Except.ok.inj ((run_ofArguments named folder).symm.trans ran)
    exact folder_run unwritten folder

/-- The series of a stored formula replaces the formula itself. -/
theorem file_output_eq_printed_in_place :
    ∃ printed after,
      Prints ["series", "--formula", "formula.json"] standardFolder printed ∧
        BandedPalette.run ["series", "--out", "formula.json", "--formula", "formula.json"]
            standardFolder = .ok ⟨.ok (), ⟨after, ""⟩⟩ ∧
        after.lookup "formula.json" = some printed.toUTF8 := by
  have loaded : formulaIn standardFolder (some "formula.json") = .ok Formula.standard :=
    formulaIn_of_read read_standardFolder (ofDocument_line Formula.standard)
  obtain ⟨report, compared⟩ : ∃ report,
      Report.compare Reference.table Formula.standard.encode = .ok report := by
    rw [Report.compare_eq_ok_iff]
    exact Reference.length_table
  have named : ofArguments ["series", "--formula", "formula.json"] =
      .ok (.series none (some "formula.json") .csv none) := rfl
  have prints : Prints ["series", "--formula", "formula.json"] standardFolder
      (seriesText .csv report) := by
    refine prints_of_run named ?_
    rw [run_series, comparisonIn, loaded]
    simp only [referenceIn, bind, Except.bind, compared]
    rfl
  have plain : IsPlain "formula.json" := by
    intro c rest
    simp
  have fileName : Folder.FileName "formula.json" := by
    constructor <;> decide
  obtain ⟨again, written⟩ := file_output_eq_printed.1 _ _ _ _ _ named (by decide) rfl prints rfl
    plain fileName
  obtain ⟨after, ran, looked⟩ := written _ again
  exact ⟨_, after, prints, ran, looked "formula.json"⟩

end BandedPalette.Command
