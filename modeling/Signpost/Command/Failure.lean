import Signpost.Command.Starter
import Signpost.Site.Load
import Signpost.Site.Report

/-!
# Failures

Why a task failed. A failure is told as a sentence and the chain of its causes.
-/

namespace Signpost.Command

/-- Why a task failed. -/
inductive Failure where
  | configNotFound (name directory : Text)
  | notLoaded (path : Text) (error : FileError)
  /-- The problems were told before. -/
  | configInvalid (path : Text) (count : Nat)
  | fieldsUnknown (path : Text) (count : Nat)
  | targetNotDirectory (path : Text)
  | configExists (path : Text)
  | directoryNotMade (path : Text) (fault : FileFault)
  | configNotWritten (path : Text) (fault : FileFault)
  | outputNotMade (path : Text) (fault : FileFault)
deriving DecidableEq, Repr

/-- What is wrong with a source, as a cause. -/
def sourceCause : SourceError → Text
  | .json error => error.render
  | .toml .malformed => "TOML parse error".toList
  | .toml (.misfit cause) => "TOML parse error\n".toList ++ Toml.message cause

/-- The causes of a file not being loaded, the nearest one first. -/
def fileCauses (color : Bool) : FileError → List Text
  | .unread path fault =>
    ["IO error when reading `".toList ++ path ++ ['\x60'], fault.message]
  | .rejected (.unreadable error) => ["config file parsing error".toList, sourceCause error]
  | .rejected (.invalid diagnostics) => [Diagnostic.displayAll color diagnostics]

namespace Failure

def message : Failure → Text
  | configNotFound name directory =>
    "Config file '".toList ++ name ++ "' not found in '".toList ++ directory ++
      "' or any parent directory.\nRun `docsite init` to create one.".toList
  | notLoaded path _ => "Failed to load '".toList ++ path ++ ['\'']
  | configInvalid path count =>
    '\'' :: path ++ "' is invalid (".toList ++ Text.counted count "error".toList ++ [')']
  | fieldsUnknown path count =>
    '\'' :: path ++ "' has ".toList ++ Text.counted count "unknown field".toList ++
      " (--strict)".toList
  | targetNotDirectory path => '\'' :: path ++ "' exists and is not a directory.".toList
  | configExists path =>
    '\'' :: path ++ "' already exists.\nUse `docsite init --force` to overwrite it.".toList
  | directoryNotMade path _ => "Failed to create directory '".toList ++ path ++ ['\'']
  | configNotWritten path _ => "Failed to write config file '".toList ++ path ++ ['\'']
  | outputNotMade path _ => "Failed to create '".toList ++ path ++ ['\'']

/-- The causes of the failure, the nearest one first. -/
def causes (color : Bool) : Failure → List Text
  | notLoaded _ error => fileCauses color error
  | directoryNotMade _ fault => [fault.message]
  | configNotWritten _ fault => [fault.message]
  | outputNotMade _ fault => [fault.message]
  | _ => []

/-- The failure and its causes in words, each before the one behind it. -/
def chain (color : Bool) (failure : Failure) : List Text :=
  failure.message :: failure.causes color

/-- A cause with a margin: its number if there are several. Further lines of it are indented. -/
def indented (number : Option Nat) (cause : Text) : Text :=
  let first := match number with
    | none => List.replicate 4 ' '
    | some n => Text.padStart 5 ' ' (Text.ofNat n) ++ ": ".toList
  let further := '\n' :: List.replicate first.length ' '
  first ++ Text.join further (Text.splitOn '\n' cause)

/-- The failure as it is told at the end of a run. -/
def report (color : Bool) (failure : Failure) : Text :=
  let causes := failure.causes color
  let told := match causes with
    | [] => []
    | [cause] => [indented none cause]
    | _ => causes.zipIdx.map fun (cause, n) => indented (some n) cause
  "Error: ".toList ++ failure.message ++
    (if told.isEmpty then [] else "\n\nCaused by:\n".toList ++ Text.join ['\n'] told) ++ ['\n']

end Failure

end Signpost.Command
