import BandedPalette.Command
import BandedPalette.Numeral.Reading
namespace BandedPalette.Command

/-! Reading a command from arguments.

The first argument names the command, or a menu of further commands.  Options
have long names; a value is joined by `=` or is the next argument, which then
must not look like an option.  Each option is given at most once.  An option is
settled only when the next one is met or the arguments end, so that an argument
that is not known at all is reported before a bad value right in front of it.
-/

inductive UsageFault where
  | help
  | commandMissing
  | unknownCommand
  | unknownArgument
  | valueMissing
  | badChoice
  | badValue
  | surplusValue
  | repeatedOption
  | optionMissing
deriving DecidableEq, Repr

inductive Setting where
  | index
  | base
  | reference
  | formula
  | top
  | bands
  | format
  | out
deriving DecidableEq, Repr

def Setting.name : Setting → String
  | .index => "index"
  | .base => "base"
  | .reference => "reference"
  | .formula => "formula"
  | .top => "top"
  | .bands => "bands"
  | .format => "fmt"
  | .out => "out"

def settings : Command → List Setting
  | .encode .. => [.index, .formula, .format]
  | .analyze .. => [.reference, .formula, .top, .bands, .format]
  | .series .. => [.reference, .formula, .format, .out]
  | .inspect .. => [.formula]
  | .dump .. => [.out]
  | .tint .. => [.index, .base, .formula]

def required : Command → List Setting
  | .tint .. => [.index, .base]
  | _ => []

def readCount (value : String) : Except UsageFault Nat :=
  (Numeral.readNatural 10 Numeral.maxWord64 value.toList).mapError fun _ => .badValue

def readEntryFormat : String → Except UsageFault EntryFormat
  | "text" => .ok .rows
  | "jsonl" => .ok .records
  | _ => .error .badChoice

def readSummaryFormat : String → Except UsageFault SummaryFormat
  | "text" => .ok .lines
  | "json" => .ok .json
  | _ => .error .badChoice

def readSeriesFormat : String → Except UsageFault SeriesFormat
  | "csv" => .ok .csv
  | "jsonl" => .ok .records
  | _ => .error .badChoice

def assign (command : Command) (setting : Setting) (value : String) :
    Except UsageFault Command :=
  match command, setting with
  | .encode _ formula format, .index =>
      (readCount value).map fun index => .encode (some index) formula format
  | .encode index _ format, .formula => .ok (.encode index (some value) format)
  | .encode index formula _, .format => (readEntryFormat value).map (.encode index formula ·)
  | .analyze _ formula top bands format, .reference =>
      .ok (.analyze (some value) formula top bands format)
  | .analyze reference _ top bands format, .formula =>
      .ok (.analyze reference (some value) top bands format)
  | .analyze reference formula _ bands format, .top =>
      (readCount value).map fun top => .analyze reference formula top bands format
  | .analyze reference formula top _ format, .bands =>
      .ok (.analyze reference formula top true format)
  | .analyze reference formula top bands _, .format =>
      (readSummaryFormat value).map (.analyze reference formula top bands ·)
  | .series _ formula format out, .reference => .ok (.series (some value) formula format out)
  | .series reference _ format out, .formula => .ok (.series reference (some value) format out)
  | .series reference formula _ out, .format =>
      (readSeriesFormat value).map fun format => .series reference formula format out
  | .series reference formula format _, .out => .ok (.series reference formula format (some value))
  | .inspect _, .formula => .ok (.inspect (some value))
  | .dump _, .out => .ok (.dump (some value))
  | .tint _ base formula, .index => (readCount value).map fun index => .tint index base formula
  | .tint index _ formula, .base => .ok (.tint index value formula)
  | .tint index base _, .formula => .ok (.tint index base (some value))
  | _, _ => .error .unknownArgument

/-- A command whose options are being filled in.  The last option met may still
wait for its value, or have a value that is not settled yet. -/
structure Form where
  command : Command
  given : List Setting
  pending : Option (Setting × Option String)
  /-- Whether a lone `--` was met; nothing after it is an option. -/
  dashed : Bool
deriving DecidableEq, Repr

namespace Form

def ofCommand (command : Command) : Form :=
  ⟨command, [], none, false⟩

def settle (form : Form) (setting : Setting) (value : String) : Except UsageFault Form :=
  if setting ∈ form.given then .error .repeatedOption
  else
    (form.command.assign setting value).map fun command =>
      { form with command := command, given := setting :: form.given }

def resolve (form : Form) : Except UsageFault Form :=
  match form.pending with
  | none => .ok form
  | some (_, none) => .error .valueMissing
  | some (setting, some value) => { form with pending := none }.settle setting value

def splitValue (option : List Char) : String × Option String :=
  let name := String.ofList (option.takeWhile (· ≠ '='))
  match option.dropWhile (· ≠ '=') with
  | [] => (name, none)
  | _ :: value => (name, some (String.ofList value))

def addLong (form : Form) (option : List Char) : Except UsageFault Form :=
  let (name, value?) := splitValue option
  if name = "help" then
    match value? with
    | some _ => .error .surplusValue
    | none => do
        let _ ← form.resolve
        .error .help
  else
    match form.command.settings.find? fun setting => setting.name = name with
    | none => .error .unknownArgument
    | some .bands =>
        match value? with
        | some _ => .error .surplusValue
        | none => do
            let form ← form.resolve
            form.settle .bands ""
    | some setting =>
        match value? with
        | some value => do
            let form ← form.resolve
            form.settle setting value
        | none => do
            let form ← form.resolve
            return { form with pending := some (setting, none) }

def addPlain (form : Form) (argument : String) : Except UsageFault Form :=
  match form.pending with
  | some (setting, none) => .ok { form with pending := some (setting, some argument) }
  | _ => .error .unknownArgument

def add (form : Form) (argument : String) : Except UsageFault Form :=
  if form.dashed then .error .unknownArgument
  else
    match argument.toList with
    | ['-', '-'] => .ok { form with dashed := true }
    | '-' :: '-' :: option => form.addLong option
    | '-' :: 'h' :: _ => do
        let _ ← form.resolve
        .error .help
    | '-' :: _ :: _ => .error .unknownArgument
    | _ => form.addPlain argument

def finish (form : Form) : Except UsageFault Command := do
  let form ← form.resolve
  if form.command.required.all fun setting => setting ∈ form.given then .ok form.command
  else .error .optionMissing

end Form

inductive Menu where
  | main
  | formula
deriving DecidableEq, Repr

inductive Choice where
  | command (command : Command)
  | menu (menu : Menu)
  | help
deriving DecidableEq, Repr

def Menu.choose? : Menu → String → Option Choice
  | .main, "encode" => some (.command (.encode none none .rows))
  | .main, "analyze" => some (.command (.analyze none none 0 false .lines))
  | .main, "series" => some (.command (.series none none .csv none))
  | .main, "formula" => some (.menu .formula)
  | .main, "tint" => some (.command (.tint 0 "" none))
  | .main, "help" => some .help
  | .formula, "inspect" => some (.command (.inspect none))
  | .formula, "dump" => some (.command (.dump none))
  | .formula, "help" => some .help
  | _, _ => none

inductive Progress where
  | choosing (menu : Menu) (dashed : Bool)
  /-- Help is asked for; only a menu has further topics. -/
  | explaining (topic : Option Menu)
  | filling (form : Form)
deriving DecidableEq, Repr

namespace Progress

def start : Progress :=
  .choosing .main false

def choose (menu : Menu) (dashed : Bool) (argument : String) : Except UsageFault Progress :=
  match menu.choose? argument, dashed with
  | some _, true => .error .unknownArgument
  | none, true => .error .unknownCommand
  | some (.command command), false => .ok (.filling (.ofCommand command))
  | some (.menu inner), false => .ok (.choosing inner false)
  | some .help, false => .ok (.explaining (some menu))
  | none, false =>
      match argument.toList with
      | ['-', '-'] => .ok (.choosing menu true)
      | '-' :: '-' :: option =>
          let (name, value?) := Form.splitValue option
          if name ≠ "help" then .error .unknownArgument
          else if value?.isSome then .error .surplusValue
          else .error .help
      | '-' :: 'h' :: _ => .error .help
      | '-' :: _ :: _ => .error .unknownArgument
      | _ => .error .unknownCommand

def explain (topic : Option Menu) (argument : String) : Except UsageFault Progress :=
  match topic.bind fun menu => menu.choose? argument with
  | none => .error .unknownCommand
  | some (.menu inner) => .ok (.explaining (some inner))
  | some _ => .ok (.explaining none)

def add (progress : Progress) (argument : String) : Except UsageFault Progress :=
  match progress with
  | .choosing menu dashed => choose menu dashed argument
  | .explaining topic => explain topic argument
  | .filling form => (form.add argument).map .filling

def finish : Progress → Except UsageFault Command
  | .choosing _ _ => .error .commandMissing
  | .explaining _ => .error .help
  | .filling form => form.finish

end Progress

def ofArguments (arguments : List String) : Except UsageFault Command := do
  let progress ← arguments.foldlM Progress.add Progress.start
  progress.finish

end BandedPalette.Command
