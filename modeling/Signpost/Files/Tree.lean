import Signpost.Files.Path
import Signpost.Text.Utf8

/-!
# Files and directories

The files that a command finds and leaves. Directories are entered component by component: `.`
stays, `..` goes up, and every component that another one follows must be a directory.
-/

namespace Signpost

/-- Where a file or directory is: the names from the root down to it. -/
abbrev Place := List Text

/-- What is at a place. -/
inductive FileNode where
  | file (bytes : List Nat)
  | directory
deriving DecidableEq, Repr

/-- Why something cannot be done with a path. -/
inductive FileFault where
  | missing
  | occupied
  | notDirectory
  | isDirectory
  | notText
deriving DecidableEq, Repr

def FileFault.message : FileFault → Text
  | missing => "No such file or directory (os error 2)".toList
  | occupied => "File exists (os error 17)".toList
  | notDirectory => "Not a directory (os error 20)".toList
  | isDirectory => "Is a directory (os error 21)".toList
  | notText => "stream did not contain valid UTF-8".toList

/-- All files and directories below the root, in the order in which they were made. -/
structure FileTree where
  nodes : List (Place × FileNode)
deriving DecidableEq, Repr

namespace FileTree

/-- What is at a place; the root is always a directory. -/
def node? (tree : FileTree) (place : Place) : Option FileNode :=
  if place.isEmpty then some .directory else tree.nodes.lookup place

/-- Puts a node at a place among others, in the stead of the one that is there. -/
def putAmong (place : Place) (node : FileNode) : List (Place × FileNode) → List (Place × FileNode)
  | [] => [(place, node)]
  | (p, n) :: rest =>
    if p = place then (place, node) :: rest else (p, n) :: putAmong place node rest

def put (tree : FileTree) (place : Place) (node : FileNode) : FileTree :=
  ⟨putAmong place node tree.nodes⟩

def requireDirectory (tree : FileTree) (place : Place) : Except FileFault Unit :=
  match tree.node? place with
  | none => .error .missing
  | some (.file _) => .error .notDirectory
  | some .directory => .ok ()

/-- Follows components from a place. What the last one names need not exist. -/
def follow (tree : FileTree) : Place → List Text → Except FileFault Place
  | place, [] => .ok place
  | place, component :: rest => do
    tree.requireDirectory place
    if component = [] ∨ component = ['.'] then tree.follow place rest
    else if component = ['.', '.'] then tree.follow place.dropLast rest
    else tree.follow (place ++ [component]) rest

end FileTree

/-- Files, and the directory that relative paths start from. -/
structure Disk where
  tree : FileTree
  workplace : Place
deriving DecidableEq, Repr

namespace Disk

def workingPath (disk : Disk) : Text := '/' :: Text.join ['/'] disk.workplace

def origin (disk : Disk) (path : Text) : Place :=
  if FilePath.isAbsolute path then [] else disk.workplace

def locate (disk : Disk) (path : Text) : Except FileFault (Place × FileNode) :=
  if path.isEmpty then .error .missing
  else do
    let place ← disk.tree.follow (disk.origin path) (Text.splitOn '/' path)
    match disk.tree.node? place with
    | none => .error .missing
    | some node => .ok (place, node)

def exists? (disk : Disk) (path : Text) : Bool :=
  match disk.locate path with
  | .ok _ => true
  | .error _ => false

def isFile (disk : Disk) (path : Text) : Bool :=
  match disk.locate path with
  | .ok (_, .file _) => true
  | _ => false

def isDirectory (disk : Disk) (path : Text) : Bool :=
  match disk.locate path with
  | .ok (_, .directory) => true
  | _ => false

def readText (disk : Disk) (path : Text) : Except FileFault Text :=
  match disk.locate path with
  | .error fault => .error fault
  | .ok (_, .directory) => .error .isDirectory
  | .ok (_, .file bytes) =>
    match Utf8.decode? bytes with
    | none => .error .notText
    | some text => .ok text

/-- A path without the slashes at its end. -/
def withoutSlashes (path : Text) : Text := Text.trimEndBy (· == '/') path

/-- The directory in which a path names something, and the name; there is no name when the path
ends in `.` or `..` or is the root. -/
def locateParent (disk : Disk) (path : Text) : Except FileFault (Place × Option Text) := do
  if path.isEmpty then .error .missing
  else
    let components := Text.splitOn '/' (withoutSlashes path)
    let place ← disk.tree.follow (disk.origin path) components.dropLast
    disk.tree.requireDirectory place
    let name := components.getLast?.filter fun c => c ≠ [] ∧ c ≠ ['.'] ∧ c ≠ ['.', '.']
    return (place, name)

/-- The disk after a directory was made; nothing may be there before. -/
def makeDirectory (disk : Disk) (path : Text) : Except FileFault Disk := do
  match ← disk.locateParent path with
  | (_, none) => .error .occupied
  | (parent, some name) =>
    match disk.tree.node? (parent ++ [name]) with
    | some _ => .error .occupied
    | none => return { disk with tree := disk.tree.put (parent ++ [name]) .directory }

/-- The disk after bytes were written to a file, which is made if it is not there. A path with a
slash at its end names no file. -/
def write (disk : Disk) (path : Text) (bytes : List Nat) : Except FileFault Disk := do
  match ← disk.locateParent path with
  | (_, none) => .error .isDirectory
  | (parent, some name) =>
    if Text.endsWith ['/'] path then .error .isDirectory
    else match disk.tree.node? (parent ++ [name]) with
      | some .directory => .error .isDirectory
      | _ => return { disk with tree := disk.tree.put (parent ++ [name]) (.file bytes) }

/-- Makes a directory unless it is there. -/
def ensureDirectory (disk : Disk) (path : Text) : Except FileFault Disk :=
  match disk.makeDirectory path with
  | .ok disk => .ok disk
  | .error fault => if disk.isDirectory path then .ok disk else .error fault

/-- Makes a directory and, first, the missing ones among the given ancestors of its path, which
become shorter. What was made before a fault stays. -/
def makeAll : List Text → Disk → Except FileFault Unit × Disk
  | [], disk => (.ok (), disk)
  | path :: ancestors, disk =>
    if path.isEmpty then (.ok (), disk)
    else match disk.makeDirectory path with
      | .ok disk => (.ok (), disk)
      | .error .missing =>
        match makeAll ancestors disk with
        | (.error fault, disk) => (.error fault, disk)
        | (.ok (), disk) =>
          match disk.ensureDirectory path with
          | .ok disk => (.ok (), disk)
          | .error fault => (.error fault, disk)
      | .error fault => if disk.isDirectory path then (.ok (), disk) else (.error fault, disk)

/-- Makes a directory and the missing ones above it. What was made before a fault stays. -/
def makeDirectories (disk : Disk) (path : Text) : Except FileFault Unit × Disk :=
  makeAll (FilePath.ancestors path) disk

end Disk

end Signpost
