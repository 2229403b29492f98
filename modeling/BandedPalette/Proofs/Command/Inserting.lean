import BandedPalette.Proofs.Command.Arguments
import BandedPalette.Proofs.Result
namespace BandedPalette.Command

/-! An output file named in front of all other options.

A command that is read without an output file is read again with one when the
option for it is put right after the command's name, whatever follows: options
joined to their values or not, in any order, with a lone `--` at the end.  Each
form met on the way is the one met before, with the output file filled in.
-/

def out? : Command → Option String
  | .series _ _ _ out => out
  | .dump out => out
  | _ => none

def redirect (path : String) : Command → Command
  | .series reference formula format _ => .series reference formula format (some path)
  | .dump _ => .dump (some path)
  | command => command

/-- Arguments with the option for an output file after the command's name. -/
def redirectArguments (path : String) : List String → List String
  | "formula" :: name :: rest => "formula" :: name :: "--out" :: path :: rest
  | name :: rest => name :: "--out" :: path :: rest
  | [] => []

theorem assign_out {command : Command} (path : String) (writes : .out ∈ command.settings) :
    command.assign .out path = .ok (command.redirect path) := by
  cases command <;> simp_all [settings, assign, redirect]

theorem settings_redirect (path : String) (command : Command) :
    (command.redirect path).settings = command.settings := by
  cases command <;> rfl

theorem required_redirect (path : String) (command : Command) :
    (command.redirect path).required = command.required := by
  cases command <;> rfl

theorem redirect_eq_self {command : Command} (path : String) (prints : .out ∉ command.settings) :
    command.redirect path = command := by
  cases command <;> simp_all [settings, redirect]

/-- An option that is not the output file is filled in whether there is one or not. -/
structure Assigns (path : String) (command filled : Command) (setting : Setting)
    (value : String) : Prop where
  other : setting ≠ .out
  unwritten : command.out? = none
  redirected : (command.redirect path).assign setting value = .ok (filled.redirect path)

theorem assigns_of_unwritten {command filled : Command} {setting : Setting} {value : String}
    (path : String) (assigned : command.assign setting value = .ok filled)
    (unwritten : filled.out? = none) : Assigns path command filled setting value := by
  cases command with
  | series reference formula format out =>
      cases setting with
      | reference =>
          cases assigned
          exact ⟨by decide, unwritten, rfl⟩
      | formula =>
          cases assigned
          exact ⟨by decide, unwritten, rfl⟩
      | format =>
          obtain ⟨format, read, rfl⟩ := exists_of_map assigned
          exact ⟨by decide, unwritten, by simp [redirect, assign, read, Except.map]⟩
      | out =>
          cases assigned
          cases unwritten
      | index => cases assigned
      | base => cases assigned
      | top => cases assigned
      | bands => cases assigned
  | dump out =>
      cases setting with
      | out =>
          cases assigned
          cases unwritten
      | _ => cases assigned
  | _ =>
      have prints : .out ∉ filled.settings := by
        rw [settings_assign assigned]
        simp [settings]
      have same := redirect_eq_self path prints
      refine ⟨?_, rfl, by rw [same]; exact assigned⟩
      rintro rfl
      cases assigned

namespace Form

def redirect (path : String) (form : Form) : Form :=
  { form with command := form.command.redirect path, given := form.given ++ [.out] }

/-- A step of a form that is taken as well with the output file filled in, where
it leaves that file open. -/
structure Carries (path : String) (step : Form → Except UsageFault Form) (form next : Form) :
    Prop where
  settings : next.command.settings = form.command.settings
  unwritten : next.command.out? = none → form.command.out? = none
  redirected : next.command.out? = none →
    step (form.redirect path) = .ok (next.redirect path)

section Steps

variable {form next : Form} (path : String)

theorem Carries.congr {step other : Form → Except UsageFault Form} {path : String}
    (carries : Carries path step form next)
    (same : other (form.redirect path) = step (form.redirect path)) :
    Carries path other form next :=
  ⟨carries.settings, carries.unwritten, fun unwritten => same.trans (carries.redirected unwritten)⟩

theorem carries_settle {setting : Setting} {value : String}
    (settled : form.settle setting value = .ok next) :
    Carries path (fun form => form.settle setting value) form next := by
  obtain ⟨_, _, settings⟩ := fixed_of_settle settled
  unfold settle at settled
  split at settled
  case isTrue => cases settled
  case isFalse fresh =>
    obtain ⟨filled, assigned, rfl⟩ := exists_of_map settled
    have assigns := assigns_of_unwritten path assigned
    refine ⟨settings, fun unwritten => (assigns unwritten).unwritten, ?_⟩
    intro unwritten
    have still : setting ∉ form.given ++ [.out] := by
      simp [fresh, (assigns unwritten).other]
    simp only [settle, redirect, if_neg still, (assigns unwritten).redirected]
    rfl

theorem carries_resolve (resolved : form.resolve = .ok next) :
    Carries path resolve form next := by
  unfold resolve at resolved
  split at resolved
  case h_1 idle =>
    cases resolved
    exact ⟨rfl, id, fun _ => by simp [resolve, redirect, idle]⟩
  case h_2 => cases resolved
  case h_3 setting value waiting =>
    have carries := carries_settle path resolved
    refine ⟨carries.settings, carries.unwritten, fun unwritten => ?_⟩
    rw [resolve, redirect]
    simp only [waiting]
    exact carries.redirected unwritten

theorem carries_after_resolve {act : Form → Except UsageFault Form}
    (done : (form.resolve >>= act) = .ok next)
    (carries : ∀ settled : Form, act settled = .ok next → Carries path act settled next) :
    Carries path (fun form => form.resolve >>= act) form next := by
  obtain ⟨settled, resolved, acted⟩ := exists_of_bind done
  have first := carries_resolve path resolved
  have second := carries settled acted
  refine ⟨second.settings.trans first.settings,
    fun unwritten => first.unwritten (second.unwritten unwritten), fun unwritten => ?_⟩
  simp only [first.redirected (second.unwritten unwritten)]
  exact second.redirected unwritten

theorem carries_addLong {option : List Char} (added : form.addLong option = .ok next) :
    Carries path (fun form => form.addLong option) form next := by
  have same : (form.redirect path).command.settings = form.command.settings :=
    settings_redirect path form.command
  unfold addLong at added
  generalize cut : splitValue option = parts at added
  obtain ⟨name, value?⟩ := parts
  simp only at added
  split at added
  case isTrue help =>
    cases value? with
    | some value => cases added
    | none =>
        obtain ⟨_, _, refused⟩ := exists_of_bind added
        cases refused
  case isFalse unhelpful =>
    -- In each way to go on, the same is done once the option before is settled.
    split at added
    case h_1 => cases added
    case h_2 found =>
      cases value? with
      | some value => cases added
      | none =>
          refine (carries_after_resolve path added fun settled => carries_settle path).congr ?_
          simp only [addLong, cut, if_neg unhelpful, same, found]
    case h_3 setting valued found =>
      cases value? with
      | some value =>
          refine (carries_after_resolve path added fun settled => carries_settle path).congr ?_
          simp only [addLong, cut, if_neg unhelpful, same, found]
      | none =>
          have carries := carries_after_resolve path added fun settled done => by
            cases done
            exact ⟨rfl, id, fun _ => rfl⟩
          refine carries.congr ?_
          simp only [addLong, cut, if_neg unhelpful, same, found]

theorem carries_addPlain {argument : String} (added : form.addPlain argument = .ok next) :
    Carries path (fun form => form.addPlain argument) form next := by
  unfold addPlain at added
  split at added
  case h_1 setting waiting =>
    cases added
    exact ⟨rfl, id, fun _ => by simp [addPlain, redirect, waiting]⟩
  case h_2 => cases added

theorem carries_add {argument : String} (added : form.add argument = .ok next) :
    Carries path (fun form => form.add argument) form next := by
  have same : (form.redirect path).dashed = form.dashed := rfl
  unfold add at added
  split at added
  case isTrue => cases added
  case isFalse undashed =>
    split at added
    case h_1 shape =>
      cases added
      exact ⟨rfl, id, fun _ => by simp [add, undashed, shape, redirect]⟩
    case h_2 shape =>
      refine (carries_addLong path added).congr ?_
      simp only [add, same, undashed, shape]
      rfl
    case h_3 =>
      obtain ⟨_, _, refused⟩ := exists_of_bind added
      cases refused
    case h_4 => cases added
    case h_5 optional =>
      have plain : IsPlain argument := fun c rest shape => optional c rest shape
      exact (carries_addPlain path added).congr
        (add_eq_addPlain (by simpa [same] using undashed) plain)

def complete (form : Form) (arguments : List String) : Except UsageFault Command :=
  arguments.foldlM add form >>= finish

theorem complete_cons (form : Form) (argument : String) (rest : List String) :
    form.complete (argument :: rest) = form.add argument >>= fun next => next.complete rest := by
  simp only [complete, List.foldlM_cons, bind_assoc]

theorem finish_redirect {command : Command} (finished : form.finish = .ok command)
    (unwritten : command.out? = none) :
    command.settings = form.command.settings ∧ form.command.out? = none ∧
      (form.redirect path).finish = .ok (command.redirect path) := by
  obtain ⟨settled, resolved, done⟩ := exists_of_bind finished
  split at done
  case isFalse => cases done
  case isTrue given =>
    cases done
    have carries := carries_resolve path resolved
    have enough : (settled.redirect path).command.required.all
        (fun setting => setting ∈ (settled.redirect path).given) := by
      simp only [List.all_eq_true, decide_eq_true_eq, redirect, required_redirect,
        List.mem_append] at given ⊢
      exact fun setting member => .inl (given setting member)
    refine ⟨carries.settings, carries.unwritten unwritten, ?_⟩
    rw [finish, carries.redirected unwritten]
    exact if_pos enough

theorem complete_redirect {arguments : List String} {command : Command}
    (filled : form.complete arguments = .ok command) (unwritten : command.out? = none) :
    command.settings = form.command.settings ∧ form.command.out? = none ∧
      (form.redirect path).complete arguments = .ok (command.redirect path) := by
  induction arguments generalizing form with
  | nil => exact finish_redirect path filled unwritten
  | cons argument rest ih =>
      rw [complete_cons] at filled ⊢
      obtain ⟨next, added, later⟩ := exists_of_bind filled
      have carries := carries_add path added
      obtain ⟨settings, vacant, same⟩ := ih later
      rw [carries.redirected vacant]
      exact ⟨settings.trans carries.settings, carries.unwritten vacant, same⟩

end Steps

section Waiting

variable {form settled : Form}

theorem Awaits.resolve_settled (awaits : Awaits form settled) : settled.resolve = .ok settled := by
  rw [resolve, awaits.idle]

theorem Awaits.addPlain_eq (awaits : Awaits form settled) (argument : String) :
    form.addPlain argument = settled.addPlain argument := by
  have resolved := awaits.resolved
  unfold resolve at resolved
  split at resolved
  case h_1 idle => simp only [addPlain, idle, awaits.idle]
  case h_2 => cases resolved
  case h_3 waiting => simp only [addPlain, waiting, awaits.idle]

theorem Awaits.addLong_eq (awaits : Awaits form settled) (option : List Char) :
    form.addLong option = settled.addLong option := by
  simp only [addLong, awaits.settings, awaits.resolved, awaits.resolve_settled]

theorem Awaits.resolve_dashed (awaits : Awaits form settled) :
    resolve { form with dashed := true } = resolve { settled with dashed := true } := by
  have resolved := awaits.resolved
  unfold resolve at resolved
  split at resolved
  case h_1 =>
    cases resolved
    rfl
  case h_2 => cases resolved
  case h_3 setting value waiting =>
    unfold settle at resolved
    split at resolved
    · cases resolved
    · rename_i fresh
      obtain ⟨command, assigned, rfl⟩ := exists_of_map resolved
      simp only [resolve, waiting, settle, if_neg fresh]
      rw [assigned]
      rfl

/-- A form that waits to settle an option goes on as the settled form does. -/
theorem Awaits.complete_eq (awaits : Awaits form settled) (arguments : List String) :
    form.complete arguments = settled.complete arguments := by
  cases arguments with
  | nil =>
      change finish form = finish settled
      rw [finish, finish, awaits.resolved, awaits.resolve_settled]
  | cons argument rest =>
      rw [complete_cons, complete_cons]
      unfold Form.add
      rw [if_neg (by simp [awaits.unmarked]), if_neg (by simp [awaits.plain])]
      split
      case h_1 =>
        cases rest with
        | nil =>
            change finish { form with dashed := true } = finish { settled with dashed := true }
            rw [finish, finish, awaits.resolve_dashed]
        | cons other others => rfl
      case h_2 => rw [awaits.addLong_eq]
      case h_3 => rw [awaits.resolved, awaits.resolve_settled]
      case h_4 => rfl
      case h_5 => rw [awaits.addPlain_eq]

end Waiting

end Form

def Progress.complete (progress : Progress) (arguments : List String) :
    Except UsageFault Command :=
  arguments.foldlM Progress.add progress >>= Progress.finish

namespace Progress

variable {menu inner : Menu} {arguments : List String} {command : Command}

theorem complete_cons (progress : Progress) (argument : String) (rest : List String) :
    progress.complete (argument :: rest) =
      progress.add argument >>= fun next => next.complete rest := by
  simp only [complete, List.foldlM_cons, bind_assoc]

theorem complete_filling (form : Form) (arguments : List String) :
    (filling form).complete arguments = form.complete arguments := by
  rw [complete, foldlM_filling, Form.complete]
  cases arguments.foldlM Form.add form <;> rfl

theorem complete_explaining (topic : Option Menu) (arguments : List String) :
    (explaining topic).complete arguments ≠ .ok command := by
  intro read
  induction arguments generalizing topic with
  | nil => cases read
  | cons argument rest ih =>
      rw [complete_cons, add, explain] at read
      split at read
      case h_1 => cases read
      case h_2 => exact ih _ read
      case h_3 => exact ih _ read

theorem choose_cases {argument : String} {next : Progress}
    (chose : choose menu false argument = .ok next) :
    (∃ chosen, menu.choose? argument = some (.command chosen) ∧
        next = filling (.ofCommand chosen)) ∨
      (∃ inner, menu.choose? argument = some (.menu inner) ∧ next = choosing inner false) ∨
      next = explaining (some menu) ∨ next = choosing menu true := by
  unfold choose at chose
  cases found : menu.choose? argument with
  | some choice =>
      rw [found] at chose
      cases choice with
      | command chosen =>
          cases chose
          exact .inl ⟨chosen, rfl, rfl⟩
      | menu inner =>
          cases chose
          exact .inr (.inl ⟨inner, rfl, rfl⟩)
      | help =>
          cases chose
          exact .inr (.inr (.inl rfl))
  | none =>
      -- An argument that is no name leads on only where it is a lone `--`.
      simp only [found] at chose
      split at chose
      case h_1 =>
        cases chose
        exact .inr (.inr (.inr rfl))
      case h_2 =>
        split at chose
        · cases chose
        · split at chose <;> cases chose
      case h_3 => cases chose
      case h_4 => cases chose
      case h_5 => cases chose

theorem complete_dashed (menu : Menu) (arguments : List String) :
    (choosing menu true).complete arguments ≠ .ok command := by
  intro read
  cases arguments with
  | nil => cases read
  | cons argument rest =>
      rw [complete_cons] at read
      obtain ⟨next, chose, _⟩ := exists_of_bind read
      rw [add] at chose
      unfold choose at chose
      split at chose <;> simp_all

theorem complete_command {name : String} {chosen : Command} (rest : List String)
    (found : menu.choose? name = some (.command chosen)) :
    (choosing menu false).complete (name :: rest) = (Form.ofCommand chosen).complete rest := by
  rw [complete_cons, add]
  simp only [choose, found]
  exact complete_filling _ rest

theorem complete_menu {name : String} (rest : List String)
    (found : menu.choose? name = some (.menu inner)) :
    (choosing menu false).complete (name :: rest) = (choosing inner false).complete rest := by
  rw [complete_cons, add]
  simp only [choose, found]
  rfl

/-- A command is chosen from a menu by its first argument, or from a menu in it. -/
theorem exists_choice (read : (choosing menu false).complete arguments = .ok command) :
    ∃ name rest, arguments = name :: rest ∧
      ((∃ chosen, menu.choose? name = some (.command chosen) ∧
          (Form.ofCommand chosen).complete rest = .ok command) ∨
        ∃ inner, menu.choose? name = some (.menu inner) ∧
          (choosing inner false).complete rest = .ok command) := by
  cases arguments with
  | nil => cases read
  | cons name rest =>
      rw [complete_cons] at read
      obtain ⟨next, chose, later⟩ := exists_of_bind read
      refine ⟨name, rest, rfl, ?_⟩
      rcases choose_cases chose with ⟨chosen, found, rfl⟩ | ⟨inner, found, rfl⟩ | rfl | rfl
      · exact .inl ⟨chosen, found, (complete_filling _ rest).symm.trans later⟩
      · exact .inr ⟨inner, found, later⟩
      · exact absurd later (complete_explaining _ rest)
      · exact absurd later (complete_dashed menu rest)

end Progress

theorem complete_out {start command : Command} {path : String} {rest : List String}
    (plain : IsPlain path) (filled : (Form.ofCommand start).complete rest = .ok command)
    (writes : .out ∈ command.settings) (unwritten : command.out? = none) :
    (Form.ofCommand start).complete ("--out" :: path :: rest) = .ok (command.redirect path) := by
  obtain ⟨same, _, redirected⟩ := Form.complete_redirect path filled unwritten
  have known : .out ∈ start.settings := same ▸ writes
  have settles : (Form.ofCommand start).settle .out path =
      .ok ((Form.ofCommand start).redirect path) := by
    rw [Form.settle, if_neg (by simp [Form.ofCommand]), Form.ofCommand, assign_out path known]
    rfl
  have fits : Fits start .out path := ⟨known, by decide, plain⟩
  obtain ⟨after, added, awaits⟩ := (Form.awaits_ofCommand start).add fits settles
  have named : ["--out", path].foldlM Form.add (Form.ofCommand start) = .ok after := added
  have split : (Form.ofCommand start).complete ("--out" :: path :: rest) = after.complete rest := by
    change (["--out", path] ++ rest).foldlM Form.add (Form.ofCommand start) >>= Form.finish = _
    rw [List.foldlM_append, named]
    rfl
  rw [split, awaits.complete_eq]
  exact redirected

theorem choose?_main_menu {name : String} {inner : Menu}
    (found : Menu.main.choose? name = some (.menu inner)) :
    name = "formula" ∧ inner = .formula := by
  unfold Menu.choose? at found
  split at found <;> simp_all

theorem choose?_formula_menu (name : String) (inner : Menu) :
    Menu.formula.choose? name ≠ some (.menu inner) := by
  unfold Menu.choose?
  split <;> simp_all

/-- Arguments are read as before, but for the output file put in them. -/
theorem ofArguments_redirect {arguments : List String} {command : Command} {path : String}
    (plain : IsPlain path) (read : ofArguments arguments = .ok command)
    (writes : .out ∈ command.settings) (unwritten : command.out? = none) :
    ofArguments (redirectArguments path arguments) = .ok (command.redirect path) := by
  obtain ⟨name, rest, rfl, ⟨start, found, filled⟩ | ⟨inner, found, later⟩⟩ :=
    Progress.exists_choice read
  · have named : name ≠ "formula" := by
      rintro rfl
      cases found
    have shape : redirectArguments path (name :: rest) = name :: "--out" :: path :: rest := by
      unfold redirectArguments
      split <;> simp_all
    rw [shape]
    exact (Progress.complete_command _ found).trans (complete_out plain filled writes unwritten)
  · obtain ⟨rfl, rfl⟩ := choose?_main_menu found
    obtain ⟨name, rest, rfl, ⟨start, listed, filled⟩ | ⟨inner, listed, _⟩⟩ :=
      Progress.exists_choice later
    · exact (Progress.complete_menu _ found).trans <|
        (Progress.complete_command _ listed).trans (complete_out plain filled writes unwritten)
    · exact absurd listed (choose?_formula_menu name inner)

end BandedPalette.Command
