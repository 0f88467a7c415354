import Signpost.Command.Arguments
import Signpost.Command.Failure
import Signpost.Pattern.Size
import Signpost.Site.Lookup
import Signpost.Site.Render

/-!
# Running tasks

A task works on a disk. It leaves a disk, a text for the standard output, and messages, which are
told on the standard error. What it does depends neither on colours nor on whether details are to be
told: these only decide how the messages are shown. How the size of a pattern is tested is left
open; the program does it by an estimate.
-/

namespace Signpost.Command

/-! ## Messages -/

/-- Something to tell the author. -/
inductive Message where
  | notice (topic text : Text)
  /-- A notice that is only shown when details are wanted. -/
  | detail (topic text : Text)
  | problems (diagnostics : List Diagnostic)
  | failed (failure : Failure)
deriving DecidableEq, Repr

def Message.show (color verbose : Bool) : Message → Text
  | notice topic text => Notice.line color topic text
  | detail topic text => if verbose then Notice.line color topic text else []
  | problems diagnostics => Diagnostic.displayAll color diagnostics ++ "\n\n".toList
  | failed failure => failure.report color

def Message.showAll (color verbose : Bool) (messages : List Message) : Text :=
  messages.flatMap (·.show color verbose)

/-- How far a task has come. -/
structure Progress where
  disk : Disk
  messages : List Message
  output : Text
deriving DecidableEq, Repr

/-- A step of a task: it may fail, and what was done before stays done. -/
abbrev Work (α : Type) := ExceptT Failure (StateM Progress) α

namespace Work

def disk : Work Disk := do
  return (← getThe Progress).disk

def tell (message : Message) : Work Unit :=
  modifyThe Progress fun p => { p with messages := p.messages ++ [message] }

def print (text : Text) : Work Unit :=
  modifyThe Progress fun p => { p with output := p.output ++ text }

def leave (disk : Disk) : Work Unit := modifyThe Progress fun p => { p with disk }

/-- The value of what may go wrong. -/
def require {ε α : Type} (failure : ε → Failure) : Except ε α → Work α
  | .ok a => pure a
  | .error e => throw (failure e)

end Work

/-! ## Loading -/

variable [Pattern.SizeTest]

/-- The path of the config file with a name, looked for from the working directory upward. -/
def locateConfig (name : Text) : Work Text := do
  let disk ← Work.disk
  match disk.findUpward disk.workingPath name with
  | some path => return path
  | none => throw (.configNotFound name disk.workingPath)

def configTopic : Text := "config".toList

def tellLanguage (draft : Draft) : Work Unit :=
  match optionalText draft.lang with
  | some _ => pure ()
  | none => Work.tell (.detail configTopic ("lang not set, using ".toList ++ Site.defaultLang))

/-- The site in a file, or why it could not be loaded. -/
def tryLoad (path : Text) : Work (Except FileError LoadedSite) := do
  let disk ← Work.disk
  match Draft.readFile disk path with
  | .error error => return .error error
  | .ok (draft, ignored) =>
    tellLanguage draft
    match LoadedSite.ofDraft path draft ignored with
    | .error error => return .error error
    | .ok loaded =>
      let theme := loaded.site.theme
      Work.tell (.detail configTopic ("loaded ".toList ++ path ++ " (".toList ++
        Text.ofNat theme.nav.length ++ " nav items, ".toList ++
        Text.ofNat theme.sidebar.length ++ " sidebar prefixes)".toList))
      return .ok loaded

def warnIgnored (ignored : List FieldPath) : Work Unit :=
  ignored.forM fun field =>
    Work.tell (.notice "warn".toList
      ("unknown field `".toList ++ field.render ++ "` ignored".toList))

def loadConfig (name : Text) : Work LoadedSite := do
  let path ← locateConfig name
  let loaded ← Work.require (.notLoaded path) (← tryLoad path)
  warnIgnored loaded.ignored
  return loaded

/-! ## Tasks -/

def runCheck (config : Text) (strict : Bool) : Work Unit := do
  let path ← locateConfig config
  match ← tryLoad path with
  | .error (.rejected (.invalid diagnostics)) =>
    Work.tell (.problems diagnostics)
    throw (.configInvalid path diagnostics.length)
  | .error error => throw (.notLoaded path error)
  | .ok loaded =>
    warnIgnored loaded.ignored
    if strict && !loaded.ignored.isEmpty then
      throw (.fieldsUnknown path loaded.ignored.length)
    Work.tell (.notice "check".toList
      (path ++ " is valid: ".toList ++ loaded.site.summary))

def runResolve (config : Text) (format : Format) (pretty : Bool) (output : Option Text) :
    Work Unit := do
  let loaded ← loadConfig config
  let text := loaded.site.render format pretty ++ ['\n']
  match output with
  | none => Work.print text
  | some path =>
    let disk ← Work.require (.outputNotMade path)
      ((← Work.disk).write path (Utf8.encode text))
    Work.leave disk
    Work.tell (.notice "resolve".toList ("wrote output to ".toList ++ path))

def runSidebar (config : Text) (pages : List Text) (json : Bool) : Work Unit := do
  let loaded ← loadConfig config
  let found := pages.map loaded.site.lookUp
  if json then
    Work.print (Json.pretty 0 (.list (found.map PageMatch.toValue)) ++ ['\n'])
  else
    Work.print (found.flatMap fun m => m.line ++ ['\n'])

/-- Writes the starter file into a directory, which is made if it is not there. Without `force`
nothing may be in its place. -/
def runInit (directory : Text) (force : Bool) : Work Unit := do
  let disk ← Work.disk
  if disk.exists? directory && !disk.isDirectory directory then
    throw (.targetNotDirectory directory)
  let path := FilePath.join directory Site.fileName
  if disk.exists? path && !force then throw (.configExists path)
  let (made, disk) := disk.makeDirectories directory
  Work.leave disk
  Work.require (.directoryNotMade directory) made
  let disk ← Work.require (.configNotWritten path) (disk.write path (Utf8.encode starterText))
  Work.leave disk
  Work.tell (.notice "init".toList ("wrote ".toList ++ path))

/-- Does what a command line asks for. The starter file goes into the working directory when no
other is named. -/
def runTask (config : Text) : Task → Work Unit
  | .check strict => runCheck config strict
  | .resolve format pretty output => runResolve config format pretty output
  | .sidebar pages json => runSidebar config pages json
  | .init directory force => runInit (directory.getD ['.']) force

/-- The paths that a task looks at, besides the directories above them. -/
def Task.paths (disk : Disk) (config : Text) : Task → List Text
  | .init directory _ =>
    let directory := directory.getD ['.']
    [directory, FilePath.join directory Site.fileName]
  | .resolve _ _ (some output) => configPaths ++ [output]
  | _ => configPaths
where
  /-- Where the config file may be. -/
  configPaths : List Text :=
    if FilePath.isAbsolute config then [config]
    else (FilePath.ancestors disk.workingPath).map (FilePath.join · config)

/-! ## Programs -/

/-- What a run of the program leaves. -/
structure Outcome where
  code : Nat
  output : Text
  errors : Text
  disk : Disk
deriving DecidableEq, Repr

/-- Does some work on a disk: why it failed, if it did, and how far it came. -/
def Work.perform (work : Work Unit) (disk : Disk) : Option Failure × Progress :=
  match work.run.run ⟨disk, [], []⟩ with
  | (.ok (), progress) => (none, progress)
  | (.error failure, progress) => (some failure, progress)

/-- Runs a task. Colours are used only when that is asked for: the streams are not taken to be
terminals. -/
def Invocation.run (invocation : Invocation) (disk : Disk) : Outcome :=
  let (failure?, progress) := (runTask invocation.config invocation.task).perform disk
  let messages := progress.messages ++ (failure?.map Message.failed).toList
  { code := if failure?.isNone then 0 else 1
    output := progress.output
    errors := Message.showAll (invocation.color = .always) invocation.verbose messages
    disk := progress.disk }

def usageText : Text :=
  "Usage: ".toList ++ programName ++
    " [--color auto|always|never] [-C FILE] [-v] check|resolve|sidebar|init ...\n".toList

/-- What is wrong with a command line. -/
def UsageError.message : UsageError → Text
  | help => []
  | version => []
  | nothingGiven => []
  | taskMissing => "error: a command is required\n".toList
  | taskUnknown => "error: unrecognized command\n".toList
  | argumentUnknown => "error: unexpected argument\n".toList
  | valueInvalid => "error: invalid value\n".toList
  | optionRepeated => "error: an option is given more than once\n".toList
  | valueUnwanted => "error: a value for an option without one\n".toList
  | operandMissing => "error: a page is required\n".toList

/-- What a run leaves whose command line leads to no task. -/
def UsageError.outcome (error : UsageError) (disk : Disk) : Outcome :=
  match error with
  | help => ⟨error.exitCode, usageText, [], disk⟩
  | version => ⟨error.exitCode, programName ++ ' ' :: Command.version ++ ['\n'], [], disk⟩
  | _ => ⟨error.exitCode, [], error.message ++ usageText, disk⟩

def run (arguments : List Text) (disk : Disk) : Outcome :=
  match Invocation.parse Site.fileName arguments with
  | .ok invocation => invocation.run disk
  | .error error => error.outcome disk

end Signpost.Command
