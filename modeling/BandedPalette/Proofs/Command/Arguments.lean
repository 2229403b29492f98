import BandedPalette.Command.Arguments
namespace BandedPalette.Command

/-- An argument that does not look like an option.  A lone dash does not. -/
def IsPlain (argument : String) : Prop :=
  ∀ c rest, argument.toList ≠ '-' :: c :: rest

structure Fits (command : Command) (setting : Setting) (value : String) : Prop where
  known : setting ∈ command.settings
  valued : setting ≠ .bands
  plain : IsPlain value

inductive Settles : Form → List (Setting × String) → Form → Prop where
  | nil : Settles form [] form
  | cons (fits : Fits form.command setting value) (settled : form.settle setting value = .ok next)
      (rest : Settles next options last) : Settles form ((setting, value) :: options) last

def optionArguments (options : List (Setting × String)) : List String :=
  options.flatMap fun option => ["--" ++ option.1.name, option.2]

theorem settings_assign {command filled : Command} {setting : Setting} {value : String}
    (assigned : command.assign setting value = .ok filled) :
    filled.settings = command.settings := by
  unfold assign at assigned
  split at assigned
  case h_18 => cases assigned
  all_goals first
    | (cases assigned; rfl)
    | (simp only [Except.map] at assigned
       split at assigned
       · cases assigned
       · cases assigned
         rfl)

theorem Setting.name_inj {left right : Setting} : left.name = right.name ↔ left = right := by
  constructor
  · cases left <;> cases right <;> simp [name]
  · rintro rfl
    rfl

theorem find?_settings {command : Command} {setting : Setting}
    (known : setting ∈ command.settings) :
    (command.settings.find? fun other => other.name = setting.name) = some setting := by
  have present : (command.settings.find? fun other => other.name = setting.name).isSome := by
    rw [List.find?_isSome]
    exact ⟨setting, known, by simp⟩
  obtain ⟨other, found⟩ := Option.isSome_iff_exists.mp present
  have same : other.name = setting.name := by simpa using List.find?_some found
  rw [found, Setting.name_inj.mp same]

namespace Form

theorem splitValue_name (setting : Setting) :
    splitValue setting.name.toList = (setting.name, none) := by
  cases setting <;> rfl

theorem addLong_name {form settled : Form} {setting : Setting}
    (known : setting ∈ form.command.settings) (valued : setting ≠ .bands)
    (resolved : form.resolve = .ok settled) :
    form.addLong setting.name.toList = .ok { settled with pending := some (setting, none) } := by
  have unhelpful : setting.name ≠ "help" := by
    cases setting <;> decide
  simp only [addLong, splitValue_name, if_neg unhelpful, find?_settings known, resolved]
  rfl

theorem add_name {form settled : Form} {setting : Setting} (unmarked : form.dashed = false)
    (known : setting ∈ form.command.settings) (valued : setting ≠ .bands)
    (resolved : form.resolve = .ok settled) :
    form.add ("--" ++ setting.name) = .ok { settled with pending := some (setting, none) } := by
  rw [← addLong_name known valued resolved]
  cases setting <;> simp [add, unmarked, Setting.name]

theorem add_eq_addPlain {form : Form} {argument : String} (unmarked : form.dashed = false)
    (plain : IsPlain argument) : form.add argument = form.addPlain argument := by
  unfold add
  rw [if_neg (by simp [unmarked])]
  split
  case h_5 => rfl
  all_goals
    rename_i shape
    exact absurd shape (plain _ _)

theorem add_plain {form : Form} {setting : Setting} {argument : String}
    (unmarked : form.dashed = false) (waiting : form.pending = some (setting, none))
    (plain : IsPlain argument) :
    form.add argument = .ok { form with pending := some (setting, some argument) } := by
  rw [add_eq_addPlain unmarked plain]
  simp only [addPlain, waiting]

/-- Only the command and the options given change where an option is settled. -/
theorem fixed_of_settle {form next : Form} {setting : Setting} {value : String}
    (settled : form.settle setting value = .ok next) :
    next.pending = form.pending ∧ next.dashed = form.dashed ∧
      next.command.settings = form.command.settings := by
  unfold settle at settled
  split at settled
  · cases settled
  · cases assigned : form.command.assign setting value with
    | error fault => simp [assigned, Except.map] at settled
    | ok filled =>
        rw [assigned] at settled
        cases settled
        exact ⟨rfl, rfl, settings_assign assigned⟩

/-- A form that resolves to another one, which has nothing pending. An option waits
until the next one is met, so the form that is being filled in is one step behind. -/
structure Awaits (form settled : Form) : Prop where
  unmarked : form.dashed = false
  resolved : form.resolve = .ok settled
  settings : form.command.settings = settled.command.settings
  idle : settled.pending = none
  plain : settled.dashed = false

theorem awaits_ofCommand (command : Command) : Awaits (ofCommand command) (ofCommand command) :=
  ⟨rfl, rfl, rfl, rfl, rfl⟩

theorem Awaits.add {form settled next : Form} {setting : Setting} {value : String}
    (awaits : Awaits form settled) (fits : Fits settled.command setting value)
    (settles : settled.settle setting value = .ok next) :
    ∃ after, ["--" ++ setting.name, value].foldlM Form.add form = .ok after ∧
      Awaits after next := by
  -- The option before is settled when the name of this one is met.
  have known : setting ∈ form.command.settings := awaits.settings ▸ fits.known
  have named := add_name awaits.unmarked known fits.valued awaits.resolved
  have valued : Form.add { settled with pending := some (setting, none) } value =
      .ok { settled with pending := some (setting, some value) } :=
    add_plain awaits.plain rfl fits.plain
  obtain ⟨idle, plain, settings⟩ := fixed_of_settle settles
  have resolved : resolve { settled with pending := some (setting, some value) } = .ok next := by
    rw [← settles, resolve, ← awaits.idle]
  refine ⟨{ settled with pending := some (setting, some value) }, ?_, awaits.plain, resolved,
    settings.symm, idle.trans awaits.idle, plain.trans awaits.plain⟩
  rw [List.foldlM_cons, named]
  change List.foldlM Form.add _ [value] = _
  rw [List.foldlM_cons, valued]
  rfl

theorem Awaits.addAll {form settled last : Form} {options : List (Setting × String)}
    (awaits : Awaits form settled) (settles : Settles settled options last) :
    ∃ after, (optionArguments options).foldlM Form.add form = .ok after ∧ Awaits after last := by
  induction settles generalizing form with
  | nil => exact ⟨form, rfl, awaits⟩
  | cons fits settled _ ih =>
      obtain ⟨middle, added, waits⟩ := awaits.add fits settled
      obtain ⟨after, rest, last⟩ := ih waits
      refine ⟨after, ?_, last⟩
      rw [optionArguments, List.flatMap_cons, List.foldlM_append, added]
      exact rest

end Form

theorem Progress.foldlM_filling (arguments : List String) (form : Form) :
    arguments.foldlM Progress.add (.filling form) =
      (arguments.foldlM Form.add form).map Progress.filling := by
  induction arguments generalizing form with
  | nil => rfl
  | cons first rest ih =>
      rw [List.foldlM_cons, List.foldlM_cons, Progress.add]
      cases form.add first with
      | error fault => rfl
      | ok next => exact ih next

section Options

variable {name : String} {command : Command} {last : Form} {options : List (Setting × String)}

theorem Progress.finish_options (settles : Settles (.ofCommand command) options last)
    (complete : ∀ setting ∈ last.command.required, setting ∈ last.given) :
    ((optionArguments options).foldlM Progress.add (.filling (.ofCommand command)) >>=
      Progress.finish) = .ok last.command := by
  obtain ⟨after, added, awaits⟩ := (Form.awaits_ofCommand command).addAll settles
  have finished : after.finish = .ok last.command := by
    rw [Form.finish, awaits.resolved]
    exact if_pos (by simpa using complete)
  rw [Progress.foldlM_filling, added]
  exact finished

theorem ofArguments_options (chosen : Menu.main.choose? name = some (.command command))
    (settles : Settles (.ofCommand command) options last)
    (complete : ∀ setting ∈ last.command.required, setting ∈ last.given) :
    ofArguments (name :: optionArguments options) = .ok last.command := by
  have started : Progress.start.add name = .ok (.filling (.ofCommand command)) := by
    simp only [Progress.start, Progress.add, Progress.choose, chosen]
  rw [ofArguments, List.foldlM_cons, started]
  exact Progress.finish_options settles complete

theorem ofArguments_formula_options
    (chosen : Menu.formula.choose? name = some (.command command))
    (settles : Settles (.ofCommand command) options last)
    (complete : ∀ setting ∈ last.command.required, setting ∈ last.given) :
    ofArguments ("formula" :: name :: optionArguments options) = .ok last.command := by
  have entered : Progress.start.add "formula" = .ok (.choosing .formula false) := rfl
  have started : Progress.add (.choosing .formula false) name =
      .ok (.filling (.ofCommand command)) := by
    simp only [Progress.add, Progress.choose, chosen]
  rw [ofArguments, List.foldlM_cons, entered]
  change (List.foldlM Progress.add (.choosing .formula false) _ >>= _) = _
  rw [List.foldlM_cons, started]
  exact Progress.finish_options settles complete

end Options

section Commands

variable {formulaPath referencePath : String}

theorem ofArguments_encode (plain : IsPlain formulaPath) :
    ofArguments ["encode", "--formula", formulaPath, "--fmt", "jsonl"] =
      .ok (.encode none (some formulaPath) .records) := by
  have format : IsPlain "jsonl" := by
    intro c rest
    simp
  have settles : Settles (.ofCommand (.encode none none .rows))
      [(.formula, formulaPath), (.format, "jsonl")]
      ⟨.encode none (some formulaPath) .records, [.format, .formula], none, false⟩ :=
    .cons ⟨by simp [Form.ofCommand, settings], nofun, plain⟩ rfl
      (.cons ⟨by simp [settings], nofun, format⟩ rfl .nil)
  exact ofArguments_options rfl settles nofun

theorem ofArguments_analyze (formulaPlain : IsPlain formulaPath)
    (referencePlain : IsPlain referencePath) :
    ofArguments ["analyze", "--formula", formulaPath, "--reference", referencePath] =
      .ok (.analyze (some referencePath) (some formulaPath) 0 false .lines) := by
  have settles : Settles (.ofCommand (.analyze none none 0 false .lines))
      [(.formula, formulaPath), (.reference, referencePath)]
      ⟨.analyze (some referencePath) (some formulaPath) 0 false .lines, [.reference, .formula],
        none, false⟩ :=
    .cons ⟨by simp [Form.ofCommand, settings], nofun, formulaPlain⟩ rfl
      (.cons ⟨by simp [settings], nofun, referencePlain⟩ rfl .nil)
  exact ofArguments_options rfl settles nofun

theorem ofArguments_series (formulaPlain : IsPlain formulaPath)
    (referencePlain : IsPlain referencePath) :
    ofArguments ["series", "--formula", formulaPath, "--reference", referencePath] =
      .ok (.series (some referencePath) (some formulaPath) .csv none) := by
  have settles : Settles (.ofCommand (.series none none .csv none))
      [(.formula, formulaPath), (.reference, referencePath)]
      ⟨.series (some referencePath) (some formulaPath) .csv none, [.reference, .formula], none,
        false⟩ :=
    .cons ⟨by simp [Form.ofCommand, settings], nofun, formulaPlain⟩ rfl
      (.cons ⟨by simp [settings], nofun, referencePlain⟩ rfl .nil)
  exact ofArguments_options rfl settles nofun

theorem ofArguments_inspect (plain : IsPlain formulaPath) :
    ofArguments ["formula", "inspect", "--formula", formulaPath] =
      .ok (.inspect (some formulaPath)) := by
  have settles : Settles (.ofCommand (.inspect none)) [(.formula, formulaPath)]
      ⟨.inspect (some formulaPath), [.formula], none, false⟩ :=
    .cons ⟨by simp [Form.ofCommand, settings], nofun, plain⟩ rfl .nil
  exact ofArguments_formula_options rfl settles nofun

end Commands

end BandedPalette.Command
