import BandedPalette.Proofs.Command.SelfComparison
import BandedPalette.Proofs.Command.Effects
namespace BandedPalette.Command

/-! Formula files that stand for each other.

A command uses a formula file only to read the formula in it.  Two runs are
followed side by side: from states that no later step can tell apart they go
through the same results, print the same and write the same.
-/

/-- An action that has one result in two states and leaves them related. -/
def EndsAlike (related : σ → σ → Prop) (action : ExceptT Failure (StateM σ) α)
    (left right : σ) : Prop :=
  ∃ result leftAfter rightAfter, action.run.run left = (result, leftAfter) ∧
    action.run.run right = (result, rightAfter) ∧ related leftAfter rightAfter

def Alike (related : σ → σ → Prop) (action : ExceptT Failure (StateM σ) α) : Prop :=
  ∀ left right, related left right → EndsAlike related action left right

section Sequences

variable {related : σ → σ → Prop} {action : ExceptT Failure (StateM σ) α}
  {next : α → ExceptT Failure (StateM σ) β}

theorem EndsAlike.bind {left right : σ} (first : EndsAlike related action left right)
    (later : ∀ value, Alike related (next value)) :
    EndsAlike related (action >>= next) left right := by
  obtain ⟨result, leftMiddle, rightMiddle, ranLeft, ranRight, middle⟩ := first
  cases result with
  | error failure =>
      refine ⟨.error failure, leftMiddle, rightMiddle, ?_, ?_, middle⟩
      · rw [run_bind, ranLeft]
      · rw [run_bind, ranRight]
  | ok value =>
      obtain ⟨last, leftAfter, rightAfter, endLeft, endRight, after⟩ :=
        later value leftMiddle rightMiddle middle
      refine ⟨last, leftAfter, rightAfter, ?_, ?_, after⟩
      · rw [run_bind, ranLeft]
        exact endLeft
      · rw [run_bind, ranRight]
        exact endRight

theorem Alike.bind (first : Alike related action) (later : ∀ value, Alike related (next value)) :
    Alike related (action >>= next) :=
  fun left right same => (first left right same).bind later

theorem alike_eq (action : ExceptT Failure (StateM σ) α) : Alike (· = ·) action := by
  intro left right same
  subst same
  exact ⟨_, _, _, rfl, rfl, rfl⟩

theorem alike_pure (value : α) : Alike related (pure value : ExceptT Failure (StateM σ) α) :=
  fun left right same => ⟨.ok value, left, right, rfl, rfl, same⟩

theorem alike_require (reason : ε → Failure) (result : Except ε α) :
    Alike related (require (m := StateM σ) reason result) :=
  fun left right same =>
    ⟨_, left, right, run_require reason result, run_require reason result, same⟩

theorem alike_forM {items : List ι} {each : ι → ExceptT Failure (StateM σ) PUnit}
    (alike : ∀ item, Alike related (each item)) : Alike related (items.forM each) := by
  induction items with
  | nil => exact alike_pure PUnit.unit
  | cons item rest ih => exact (alike item).bind fun _ => ih

end Sequences

/-- Surroundings in which related states can be told apart by no write or print,
and by reading none but the paths that are not visible. -/
structure Blind (around : Surroundings (StateM σ)) (related : σ → σ → Prop)
    (visible : String → Prop) : Prop where
  read : ∀ path, visible path →
    Alike related (liftM (around.read path) : ExceptT Failure (StateM σ) _)
  write : ∀ path text,
    Alike related (liftM (around.write path text) : ExceptT Failure (StateM σ) _)
  print : ∀ text, Alike related (liftM (around.print text) : ExceptT Failure (StateM σ) _)

def formula? : Command → Option String
  | .encode _ formula _ => formula
  | .analyze _ formula _ _ _ => formula
  | .series _ formula _ _ => formula
  | .inspect formula => formula
  | .dump _ => none
  | .tint _ _ formula => formula

def reference? : Command → Option String
  | .analyze reference _ _ _ _ => reference
  | .series reference _ _ _ => reference
  | _ => none

def withFormula (formula : Option String) : Command → Command
  | .encode index _ format => .encode index formula format
  | .analyze reference _ top bands format => .analyze reference formula top bands format
  | .series reference _ format out => .series reference formula format out
  | .inspect _ => .inspect formula
  | .dump out => .dump out
  | .tint index base _ => .tint index base formula

theorem formula_mem_settings {command : Command} {path : String}
    (given : command.formula? = some path) : .formula ∈ command.settings := by
  cases command with
  | dump out => cases given
  | _ => simp [settings]

theorem withFormula_eq_self (command : Command) :
    command.withFormula command.formula? = command := by
  cases command <;> rfl

section Steps

variable {around : Surroundings (StateM σ)} {related : σ → σ → Prop} {visible : String → Prop}

theorem Blind.alike_save (blind : Blind around related visible) (use : FileUse)
    (path text : String) : Alike related (save around use path text) :=
  (blind.write path text).bind fun _ => alike_require _ _

theorem Blind.alike_printRow (blind : Blind around related visible)
    (row : Except DomainFault String) : Alike related (printRow around row) :=
  (alike_require _ _).bind fun text => blind.print text

theorem Blind.alike_printTables (blind : Blind around related visible) (formula : Formula) :
    Alike related (printTables around formula) :=
  (blind.print _).bind fun _ => (alike_forM fun _ => blind.alike_printRow _).bind fun _ =>
    (blind.print _).bind fun _ => alike_forM fun _ => blind.alike_printRow _

theorem Blind.alike_loadReference (blind : Blind around related visible) {path : Option String}
    (seen : ∀ name, path = some name → visible name) :
    Alike related (loadReference around path) := by
  cases path with
  | none => exact alike_pure _
  | some name =>
      exact (blind.read name (seen name rfl)).bind fun _ => (alike_require _ _).bind fun _ =>
        alike_require _ _

/-- A command first loads its formula; what it does then is settled by it. -/
theorem Blind.exists_perform (blind : Blind around related visible) {command : Command}
    (takes : .formula ∈ command.settings)
    (seen : ∀ path, command.reference? = some path → visible path) :
    ∃ next : Formula → ExceptT Failure (StateM σ) Unit,
      (∀ path, (command.withFormula path).perform around = loadFormula around path >>= next) ∧
        ∀ formula, Alike related (next formula) := by
  cases command with
  | encode index formula format =>
      refine ⟨_, fun _ => rfl, fun formula => ?_⟩
      cases index with
      | none => exact blind.print _
      | some number => exact (alike_require _ _).bind fun _ => blind.print _
  | analyze reference formula top bands format =>
      refine ⟨_, fun _ => rfl, fun formula => ?_⟩
      exact (blind.alike_loadReference seen).bind fun _ => (alike_require _ _).bind fun _ =>
        blind.print _
  | series reference formula format out =>
      refine ⟨_, fun _ => rfl, fun formula => ?_⟩
      refine (blind.alike_loadReference seen).bind fun _ => (alike_require _ _).bind fun _ => ?_
      cases out with
      | some path => exact blind.alike_save _ path _
      | none => exact blind.print _
  | inspect formula =>
      refine ⟨_, fun _ => rfl, fun formula => ?_⟩
      exact (blind.print _).bind fun _ => blind.alike_printTables formula
  | dump out => simp [settings] at takes
  | tint index base formula =>
      refine ⟨_, fun _ => rfl, fun formula => ?_⟩
      exact (alike_require _ _).bind fun _ => (alike_require _ _).bind fun _ => blind.print _

theorem Blind.perform (blind : Blind around related visible) {command : Command}
    (takes : .formula ∈ command.settings)
    (seen : ∀ path, command.reference? = some path → visible path) {left right : σ}
    (loaded : EndsAlike related (loadFormula around command.formula?) left right) :
    EndsAlike related (command.perform around) left right := by
  obtain ⟨next, performs, alike⟩ := blind.exists_perform takes seen
  have performs := performs command.formula?
  rw [withFormula_eq_self] at performs
  rw [performs]
  exact loaded.bind alike

/-- Nothing is done with a formula file once the formula is known. -/
theorem perform_eq_of_loaded {command : Command} (takes : .formula ∈ command.settings)
    {first second : Option String} {before : σ}
    (same : (loadFormula around first).run.run before =
      (loadFormula around second).run.run before) :
    ((command.withFormula first).perform around).run.run before =
      ((command.withFormula second).perform around).run.run before := by
  have blind : Blind around (· = ·) (fun _ => True) :=
    ⟨fun _ _ => alike_eq _, fun _ _ => alike_eq _, fun _ => alike_eq _⟩
  obtain ⟨next, performs, _⟩ := blind.exists_perform takes fun _ _ => trivial
  rw [performs, performs, run_bind, run_bind, same]

end Steps

/-- What two runs made of two directories: they printed the same and wrote the
same texts to the same files. -/
structure Alongside (left right : Folder) (first second : Workspace) : Prop where
  printed : first.printed = second.printed
  files : ∃ files, first.folder = left.insertAll files ∧ second.folder = right.insertAll files

section Directories

variable {name : String} {left right : Folder} {command : Command}

theorem blind_surroundings (differ : left.DifferAt name right) :
    Blind Workspace.surroundings (Alongside left right)
      (fun path => left.resolve path ≠ .ok (.entry .inside name false)) where
  read := by
    intro path apart first second same
    obtain ⟨files, leftFiles, rightFiles⟩ := same.files
    have found : first.folder.read path = second.folder.read path := by
      rw [leftFiles, rightFiles]
      exact (differ.insertAll files).read fun led => apart (Folder.resolve_eq_ok left led)
    refine ⟨.ok (first.folder.read path), first, second, run_read path, ?_, same⟩
    rw [found, run_read]
  write := by
    intro path text first second same
    obtain ⟨files, leftFiles, rightFiles⟩ := same.files
    have written := (differ.insertAll files).write path text
    rw [← leftFiles, ← rightFiles] at written
    obtain ⟨fault, refusedLeft, refusedRight⟩ | ⟨more, wroteLeft, wroteRight⟩ := written
    · refine ⟨.ok (.error fault), first, second, ?_, ?_, same⟩
      · rw [run_lift, run_write, refusedLeft]
      · rw [run_lift, run_write, refusedRight]
    · refine ⟨.ok (.ok ()), { first with folder := first.folder.insertAll more },
        { second with folder := second.folder.insertAll more }, ?_, ?_, same.printed,
        files ++ more, ?_, ?_⟩
      · rw [run_lift, run_write, wroteLeft]
      · rw [run_lift, run_write, wroteRight]
      · rw [leftFiles, Folder.insertAll_append]
      · rw [rightFiles, Folder.insertAll_append]
  print := by
    intro text first second same
    refine ⟨.ok (), _, _, run_print text, run_print text, ?_, same.files⟩
    rw [same.printed]

theorem run_alongside (differ : left.DifferAt name right) (takes : .formula ∈ command.settings)
    (apart : ∀ path, command.reference? = some path →
      left.resolve path ≠ .ok (.entry .inside name false))
    (same : formulaIn left command.formula? = formulaIn right command.formula?) :
    (command.run left).result = (command.run right).result ∧
      Alongside left right (command.run left).workspace (command.run right).workspace := by
  have start : Alongside left right ⟨left, ""⟩ ⟨right, ""⟩ := ⟨rfl, [], rfl, rfl⟩
  have loaded : EndsAlike (Alongside left right)
      (loadFormula Workspace.surroundings command.formula?) ⟨left, ""⟩ ⟨right, ""⟩ := by
    refine ⟨formulaIn left command.formula?, _, _, run_loadFormula _, ?_, start⟩
    rw [same, run_loadFormula]
  obtain ⟨result, first, second, ranLeft, ranRight, ended⟩ :=
    (blind_surroundings differ).perform takes apart loaded
  simp only [Command.run, ranLeft, ranRight]
  exact ⟨trivial, ended⟩

theorem run_withFormula (takes : .formula ∈ command.settings) {folder : Folder}
    {first second : Option String} (same : formulaIn folder first = formulaIn folder second) :
    (command.withFormula first).run folder = (command.withFormula second).run folder := by
  have loaded : (loadFormula Workspace.surroundings first).run.run ⟨folder, ""⟩ =
      (loadFormula Workspace.surroundings second).run.run ⟨folder, ""⟩ := by
    rw [run_loadFormula, run_loadFormula, same]
  simp only [Command.run, perform_eq_of_loaded takes loaded]

end Directories

theorem formulaIn_congr {left right : Folder} {path leftText rightText : String}
    (leftFound : left.read path = .ok leftText) (rightFound : right.read path = .ok rightText)
    (same : Formula.ofDocument leftText = Formula.ofDocument rightText) :
    formulaIn left (some path) = formulaIn right (some path) := by
  simp only [formulaIn, fileIn, leftFound, rightFound, same]

theorem ofDocument_congr {tables : Tables} {left right : String}
    (leftWritten : Document.Writes tables left.toList)
    (rightWritten : Document.Writes tables right.toList) :
    Formula.ofDocument left = Formula.ofDocument right := by
  rw [(Formula.ofDocument_eq_ofTables leftWritten).1,
    (Formula.ofDocument_eq_ofTables rightWritten).1]

/-- Two contents of a formula file that are read as one formula, or refused alike,
make no difference to a run, and the standard formula makes none from no formula
file at all.  All spellings of the same tables are such contents.  The same holds
in any surroundings that show a formula file only to those who read it. -/
theorem formula_file_interchangeable :
    (∀ arguments command name path (left right : Folder) leftText rightText,
      ofArguments arguments = .ok command → command.formula? = some path →
      left.DifferAt name right →
      (∀ reference, command.reference? = some reference →
        left.resolve reference ≠ .ok (.entry .inside name false)) →
      left.read path = .ok leftText → right.read path = .ok rightText →
        ∃ first second, BandedPalette.run arguments left = .ok first ∧
          BandedPalette.run arguments right = .ok second ∧
          (Formula.ofDocument leftText = Formula.ofDocument rightText ∨
              (∃ tables, Document.Writes tables leftText.toList ∧
                Document.Writes tables rightText.toList) →
            first.result = second.result ∧
              Alongside left right first.workspace second.workspace) ∧
          (Formula.ofDocument leftText = .ok Formula.standard →
            (command.withFormula none).run left = first ∧
              ∀ others, ofArguments others = .ok (command.withFormula none) →
                BandedPalette.run others left = .ok first) ∧
          (Formula.ofDocument rightText = .ok Formula.standard →
            (command.withFormula none).run right = second ∧
              ∀ others, ofArguments others = .ok (command.withFormula none) →
                BandedPalette.run others right = .ok second)) ∧
      (∀ (σ : Type) (around : Surroundings (StateM σ)) related visible (command : Command)
        left right,
        Blind around related visible → .formula ∈ command.settings →
        (∀ reference, command.reference? = some reference → visible reference) →
        EndsAlike related (loadFormula around command.formula?) left right →
          EndsAlike related (command.perform around) left right) ∧
      ∀ (σ : Type) (around : Surroundings (StateM σ)) (command : Command) first second before,
        .formula ∈ command.settings →
        (loadFormula around first).run.run before = (loadFormula around second).run.run before →
          ((command.withFormula first).perform around).run.run before =
            ((command.withFormula second).perform around).run.run before := by
  refine ⟨?runs, ?alike, ?loaded⟩
  case runs =>
    intro arguments command name path left right leftText rightText named given differ apart
      leftFound rightFound
    have takes := formula_mem_settings given
    have standard {folder : Folder} {text : String} (found : folder.read path = .ok text)
        (decoded : Formula.ofDocument text = .ok Formula.standard) :
        (command.withFormula none).run folder = command.run folder ∧
          ∀ others, ofArguments others = .ok (command.withFormula none) →
            BandedPalette.run others folder = .ok (command.run folder) := by
      have loaded : formulaIn folder (some path) = formulaIn folder none :=
        formulaIn_of_read found decoded
      have same := run_withFormula takes loaded
      rw [← given, withFormula_eq_self] at same
      refine ⟨same.symm, fun others unnamed => ?_⟩
      rw [run_ofArguments unnamed, same]
    refine ⟨_, _, run_ofArguments named left, run_ofArguments named right, ?_,
      standard leftFound, standard rightFound⟩
    intro agree
    have same : Formula.ofDocument leftText = Formula.ofDocument rightText := by
      obtain same | ⟨tables, leftWritten, rightWritten⟩ := agree
      · exact same
      · exact ofDocument_congr leftWritten rightWritten
    refine run_alongside differ takes apart ?_
    rw [given]
    exact formulaIn_congr leftFound rightFound same
  case alike =>
    intro σ around related visible command left right blind takes seen loaded
    exact blind.perform takes seen loaded
  case loaded =>
    intro σ around command first second before takes same
    exact perform_eq_of_loaded takes same

def respelledFolder : Folder :=
  standardFolder.insert "formula.json"
    (Document.record Formula.standardTables [.hueCodes, .top, .base]).pretty.toUTF8

theorem formula_file_interchangeable_respelled :
    ∃ first second,
      BandedPalette.run ["series", "--out", "series.csv", "--formula", "formula.json"]
          standardFolder = .ok first ∧
        BandedPalette.run ["series", "--out", "series.csv", "--formula", "formula.json"]
          respelledFolder = .ok second ∧
        first.result = second.result ∧
        Alongside standardFolder respelledFolder first.workspace second.workspace ∧
        BandedPalette.run ["series", "--out", "series.csv"] standardFolder = .ok first := by
  have named : ofArguments ["series", "--out", "series.csv", "--formula", "formula.json"] =
      .ok (.series none (some "formula.json") .csv (some "series.csv")) := rfl
  have unnamed : ofArguments ["series", "--out", "series.csv"] =
      .ok (.series none none .csv (some "series.csv")) := rfl
  have differ : standardFolder.DifferAt "formula.json" respelledFolder := by
    refine ⟨⟨_, rfl⟩, ⟨_, rfl⟩, fun other apart => ?_⟩
    rw [respelledFolder, Folder.lookup_insert, if_neg apart]
  have found : respelledFolder.read "formula.json" =
      .ok (Document.record Formula.standardTables [.hueCodes, .top, .base]).pretty :=
    Folder.read_of_lookup rfl rfl rfl
  have order : [Document.Field.hueCodes, .top, .base].Perm [.base, .top, .hueCodes] := by decide
  obtain ⟨first, second, ranLeft, ranRight, alike, plain, _⟩ :=
    formula_file_interchangeable.1 _ _ _ _ _ _ _ _ named rfl differ nofun read_standardFolder
      found
  have nothing : Json.Blanks "".toList := by decide
  have respelled : Document.Writes Formula.standardTables
      (Document.record Formula.standardTables [.hueCodes, .top, .base]).pretty.toList := by
    have written := Document.writes_pretty Formula.standardTables order nothing nothing
    rwa [String.empty_append, String.append_empty] at written
  have spelled : Document.Writes Formula.standardTables
      (line Formula.standard.toDocument).toList := by
    have newline : Json.Blanks "\n".toList := by decide
    have written := Document.writes_pretty Formula.standardTables (.refl _) nothing newline
    rwa [String.empty_append] at written
  obtain ⟨result, alongside⟩ := alike (.inr ⟨_, spelled, respelled⟩)
  have decoded := ofDocument_line Formula.standard
  exact ⟨first, second, ranLeft, ranRight, result, alongside, (plain decoded).2 _ unnamed⟩

end BandedPalette.Command
