import Signpost.Files.Tree
import Signpost.Site.Source

/-!
# Loading sites from files

A config file is looked for in a directory and then in each directory above it. The name of the file
tells its format.
-/

namespace Signpost

def Site.fileName : Text := "docsite.toml".toList

/-- The format of a file: JSON if its extension says so, else TOML. -/
def Format.ofPath (path : Text) : Format :=
  match FilePath.extension? path with
  | some extension => if Text.equalIgnoringCase extension "json".toList then .json else .toml
  | none => .toml

/-- The config file with a name, in a directory or the nearest one above it that has it. An absolute
name is taken as it is if there is anything. -/
def Disk.findUpward (disk : Disk) (start name : Text) : Option Text :=
  if FilePath.isAbsolute name then if disk.exists? name then some name else none
  else ((FilePath.ancestors start).map (FilePath.join · name)).find? disk.isFile

/-- A site that was loaded from a file, and the paths of the unknown keys in it. -/
structure LoadedSite where
  path : Text
  site : Site
  ignored : List FieldPath
deriving DecidableEq, Repr

/-- Why no site could be loaded from a file. -/
inductive FileError where
  | unread (path : Text) (fault : FileFault)
  | rejected (error : LoadError)
deriving DecidableEq, Repr

/-- The draft in a file, and the paths of the unknown keys in it. -/
def Draft.readFile (disk : Disk) (path : Text) : Except FileError (Draft × List FieldPath) := do
  let content ← (disk.readText path).mapError (.unread path)
  (Draft.read (.ofPath path) content).mapError fun error => .rejected (.unreadable error)

/-- The site of a draft that was read from a file, `ignored` being the paths of its unknown keys. -/
def LoadedSite.ofDraft [Pattern.SizeTest] (path : Text) (draft : Draft)
    (ignored : List FieldPath) : Except FileError LoadedSite := do
  let site ← (Site.resolve draft).mapError fun diagnostics => .rejected (.invalid diagnostics)
  return ⟨path, site, ignored⟩

def Site.loadFile [Pattern.SizeTest] (disk : Disk) (path : Text) : Except FileError LoadedSite := do
  let (draft, ignored) ← Draft.readFile disk path
  LoadedSite.ofDraft path draft ignored

end Signpost
