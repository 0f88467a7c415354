import Signpost.Site.Source

/-!
# Command lines

A command line has options that hold everywhere, then a task, and then options and operands of that
task, among which the options that hold everywhere may stand again. An option is given at most once
on each side; what is given behind the task counts more.
-/

namespace Signpost.Command

/-- When to use colours. -/
inductive ColorChoice where
  | auto | always | never
deriving DecidableEq, Repr

/-- What is to be done. -/
inductive Task where
  /-- Check the config; strictly, unknown fields are errors. -/
  | check (strict : Bool)
  /-- Write the resolved config to a file or to the standard output. -/
  | resolve (format : Format) (pretty : Bool) (output : Option Text)
  /-- Tell which sidebar the pages show. -/
  | sidebar (pages : List Text) (json : Bool)
  /-- Write a starter file; only with `force` over an existing one. -/
  | init (directory : Option Text) (force : Bool)
deriving DecidableEq, Repr

/-- A command line that was understood. -/
structure Invocation where
  color : ColorChoice
  config : Text
  verbose : Bool
  task : Task
deriving DecidableEq, Repr

/-- Why a command line leads to no task. Asking for help or the version is among these. -/
inductive UsageError where
  | help
  | version
  | nothingGiven
  | taskMissing
  | taskUnknown
  | argumentUnknown
  | valueInvalid
  | optionRepeated
  | valueUnwanted
  | operandMissing
deriving DecidableEq, Repr

/-- The exit code of a command line that leads to no task. -/
def UsageError.exitCode : UsageError → Nat
  | help => 0
  | version => 0
  | _ => 2

/-! ## What may be given -/

/-- The options of the program and of its tasks. -/
inductive OptionName where
  | color | config | verbose | help | version
  | strict | format | pretty | output | json | force
deriving DecidableEq, Repr

namespace OptionName

def long : OptionName → String
  | color => "color"
  | config => "config"
  | verbose => "verbose"
  | help => "help"
  | version => "version"
  | strict => "strict"
  | format => "format"
  | pretty => "pretty"
  | output => "output"
  | json => "json"
  | force => "force"

def short? : OptionName → Option Char
  | color => none
  | config => some 'C'
  | verbose => some 'v'
  | help => some 'h'
  | version => some 'V'
  | strict => some 's'
  | format => some 'f'
  | pretty => some 'p'
  | output => some 'o'
  | json => some 'j'
  | force => some 'f'

def takesValue : OptionName → Bool
  | color => true
  | config => true
  | format => true
  | output => true
  | _ => false

end OptionName

def ColorChoice.ofName? (name : Text) : Option ColorChoice :=
  if name = "auto".toList then some .auto
  else if name = "always".toList then some .always
  else if name = "never".toList then some .never
  else none

def formatOfName? (name : Text) : Option Format :=
  if name = "json".toList then some .json
  else if name = "toml".toList then some .toml
  else none

/-- Whether an option may have a value; paths must not be empty. -/
def OptionName.accepts (option : OptionName) (value : Text) : Bool :=
  match option with
  | color => (ColorChoice.ofName? value).isSome
  | format => (formatOfName? value).isSome
  | config => !value.isEmpty
  | output => !value.isEmpty
  | _ => true

/-- The names of tasks. -/
inductive TaskName where
  | check | resolve | sidebar | init
deriving DecidableEq, Repr

/-- The task with a name or with the first letter of one. -/
def TaskName.ofText? (t : Text) : Option TaskName :=
  if t = "check".toList ∨ t = "c".toList then some .check
  else if t = "resolve".toList ∨ t = "r".toList then some .resolve
  else if t = "sidebar".toList ∨ t = "s".toList then some .sidebar
  else if t = "init".toList ∨ t = "i".toList then some .init
  else none

/-- Where on a command line an argument stands: before the task, or behind it. -/
inductive Side where
  | program
  | task (name : TaskName)
deriving DecidableEq, Repr

namespace Side

/-- The options that may be given. -/
def options : Side → List OptionName
  | program => [.color, .config, .verbose, .help, .version]
  | task .check => [.strict, .color, .config, .verbose, .help]
  | task .resolve => [.format, .pretty, .output, .color, .config, .verbose, .help]
  | task .sidebar => [.json, .color, .config, .verbose, .help]
  | task .init => [.force, .color, .config, .verbose, .help]

/-- Whether one more operand may be given when there are `n`. -/
def takesOperand (side : Side) (n : Nat) : Bool :=
  match side with
  | task .sidebar => true
  | task .init => n = 0
  | _ => false

/-- Whether the text of an operand is allowed; the path of a directory must not be empty. -/
def acceptsOperand (side : Side) (operand : Text) : Bool :=
  match side with
  | task .init => !operand.isEmpty
  | _ => true

def long? (side : Side) (word : Text) : Option OptionName :=
  side.options.find? (·.long.toList = word)

def short? (side : Side) (letter : Char) : Option OptionName :=
  side.options.find? (·.short? = some letter)

end Side

/-! ## Reading one side -/

/-- What was begun and is only checked when something else begins or the side ends: an option that
waits for its value or has it, or operands. -/
inductive Pending where
  | none
  | option (name : OptionName) (value : Option Text)
  | operands (texts : List Text)
deriving DecidableEq, Repr

/-- How far one side has been read. -/
structure Reading where
  given : List (OptionName × Text)
  operands : List Text
  count : Nat
  pending : Pending
  /-- Whether everything that follows is an operand. -/
  onlyOperands : Bool
deriving DecidableEq, Repr

namespace Reading

def start : Reading := ⟨[], [], 0, .none, false⟩

def has (r : Reading) (option : OptionName) : Bool := r.given.any (·.1 = option)

def value? (r : Reading) (option : OptionName) : Option Text := r.given.lookup option

/-- Notes an option with its value; the value of an option without one is empty. -/
def give (r : Reading) (option : OptionName) (value : Text) : Except UsageError Reading :=
  if r.has option then .error .optionRepeated
  else if option.accepts value then .ok { r with given := r.given ++ [(option, value)] }
  else .error .valueInvalid

def settle (side : Side) (r : Reading) : Except UsageError Reading :=
  let settled := { r with pending := .none }
  match r.pending with
  | .none => .ok settled
  | .option _ none => .error .valueInvalid
  | .option name (some value) => settled.give name value
  | .operands texts =>
    if texts.all side.acceptsOperand then
      .ok { settled with operands := settled.operands ++ texts }
    else .error .valueInvalid

/-- Notes an option without a value. Help and version end the reading at once. -/
def giveFlag (side : Side) (r : Reading) (option : OptionName) : Except UsageError Reading := do
  let r ← r.settle side
  match option with
  | .help => .error .help
  | .version => .error .version
  | option => r.give option []

def giveAttached (side : Side) (r : Reading) (option : OptionName) (value : Text) :
    Except UsageError Reading := do
  let r ← r.settle side
  r.give option value

def await (side : Side) (r : Reading) (option : OptionName) : Except UsageError Reading := do
  let r ← r.settle side
  return { r with pending := .option option none }

/-- Reads an argument that begins with two hyphens, without these. -/
def readLong (side : Side) (r : Reading) (t : Text) : Except UsageError Reading :=
  let word := t.takeWhile (· != '=')
  let attached := (t.dropWhile (· != '=')).tail?
  match side.long? word, attached with
  | none, _ => .error .argumentUnknown
  | some option, none =>
    if option.takesValue then r.await side option else r.giveFlag side option
  | some option, some value =>
    if option.takesValue then r.giveAttached side option value else .error .valueUnwanted

/-- Reads letters behind one hyphen. An option with a value takes the letters behind it, or behind
an equals sign there. -/
def readShort (side : Side) : Reading → Text → Except UsageError Reading
  | r, [] => .ok r
  | r, letter :: rest =>
    match side.short? letter with
    | none => .error .argumentUnknown
    | some option =>
      if option.takesValue then
        match rest with
        | [] => r.await side option
        | '=' :: value => r.giveAttached side option value
        | value => r.giveAttached side option value
      else do
        let r ← r.giveFlag side option
        readShort side r rest

/-- The fault of an argument that is neither an option nor a wanted operand. Before the task it is
taken for the name of one, unless it is one and stands where only operands may stand. -/
def unexpected (side : Side) (r : Reading) (t : Text) : UsageError :=
  match side with
  | .task _ => .argumentUnknown
  | .program =>
    if r.onlyOperands && (t = "help".toList || (TaskName.ofText? t).isSome) then .argumentUnknown
    else .taskUnknown

def readOperand (side : Side) (r : Reading) (t : Text) : Except UsageError Reading :=
  if side.takesOperand r.count then
    match r.pending with
    | .operands texts => .ok { r with count := r.count + 1, pending := .operands (texts ++ [t]) }
    | _ => do
      let r ← r.settle side
      return { r with count := r.count + 1, pending := .operands [t] }
  else .error (r.unexpected side t)

/-- Reads one argument. An argument that no option begins is the value of the option that waits for
one, or else an operand. -/
def readArgument (side : Side) (r : Reading) (t : Text) : Except UsageError Reading :=
  if r.onlyOperands then r.readOperand side t
  else match t with
    | ['-', '-'] => .ok { r with onlyOperands := true }
    | '-' :: '-' :: long => r.readLong side long
    | '-' :: letter :: letters => r.readShort side (letter :: letters)
    | t =>
      match r.pending with
      | .option name none => .ok { r with pending := .option name (some t) }
      | _ => r.readOperand side t

/-- Whether the next argument may be the name of a task. -/
def mayStartTask (r : Reading) : Bool :=
  !r.onlyOperands &&
    match r.pending with
    | .option _ none => false
    | _ => true

end Reading

def readTaskSide (side : Side) : Reading → List Text → Except UsageError Reading
  | r, [] => r.settle side
  | r, t :: rest => do
    let r ← r.readArgument side t
    readTaskSide side r rest

/-- The arguments behind `help` name at most one task; `help` itself may be asked about as well. -/
def readHelp : List Text → UsageError
  | [] => .help
  | [t] => if t = "help".toList || (TaskName.ofText? t).isSome then .help else .taskUnknown
  | _ => .taskUnknown

/-- Reads the arguments before the name of a task, and those behind it. What is pending before the
task is checked last. -/
def readProgramSide : Reading → List Text →
    Except UsageError (Reading × Option (TaskName × Reading))
  | r, [] => do
    let r ← r.settle .program
    return (r, none)
  | r, t :: rest =>
    if r.mayStartTask && t = "help".toList then .error (readHelp rest)
    else match if r.mayStartTask then TaskName.ofText? t else none with
      | some name => do
        let inner ← readTaskSide (.task name) .start rest
        if name = .sidebar && inner.operands.isEmpty then .error .operandMissing
        else
          let r ← r.settle .program
          return (r, some (name, inner))
      | none => do
        let r ← r.readArgument .program t
        readProgramSide r rest

def Task.ofReading (name : TaskName) (r : Reading) : Task :=
  match name with
  | .check => .check (r.has .strict)
  | .resolve => .resolve (((r.value? .format).bind formatOfName?).getD .json) (r.has .pretty)
    (r.value? .output)
  | .sidebar => .sidebar r.operands (r.has .json)
  | .init => .init r.operands.head? (r.has .force)

/-- Understands a command line, the name of the program left out. -/
def Invocation.parse (defaultConfig : Text) (arguments : List Text) :
    Except UsageError Invocation := do
  let (outer, found) ← readProgramSide .start arguments
  match found with
  | none => if outer.given.isEmpty then .error .nothingGiven else .error .taskMissing
  | some (name, inner) =>
    let value? (option : OptionName) := (inner.value? option).or (outer.value? option)
    return {
      color := ((value? .color).bind ColorChoice.ofName?).getD .auto
      config := (value? .config).getD defaultConfig
      verbose := inner.has .verbose || outer.has .verbose
      task := .ofReading name inner }

end Signpost.Command
