import Signpost.Command.Run

/-!
# The program

Takes the files that a task looks at from the computer, runs the task on them, and
makes the changes that it made.
-/

namespace Signpost.Program

def pathOf (place : Place) : String :=
  String.ofList ('/' :: Text.join ['/'] place)

def readNode (place : Place) : IO (Option FileNode) := do
  if place.isEmpty then return some .directory
  try
    let bytes ← IO.FS.readBinFile (pathOf place)
    return some (.file (bytes.toList.map UInt8.toNat))
  catch
    | .noFileOrDirectory .. => return none
    | _ => return some .directory

def gather (tree : FileTree) (place : Place) : List Text → IO FileTree
  | [] => return tree
  | component :: rest => do
    if component = [] ∨ component = ['.'] then gather tree place rest
    else if component = ['.', '.'] then gather tree place.dropLast rest
    else
      let place := place ++ [component]
      match ← readNode place with
      | none => return tree
      | some node => gather (tree.put place node) place rest

def gatherAll (disk : Disk) : List Text → IO Disk
  | [] => return disk
  | path :: rest => do
    let tree ← gather disk.tree (disk.origin path) (Text.splitOn '/' path)
    gatherAll { disk with tree } rest

/-- Makes on the computer what is new or different in a tree. -/
def apply (before after : FileTree) : IO Unit :=
  after.nodes.forM fun (place, node) => do
    if before.node? place ≠ some node then
      match node with
      | .directory => IO.FS.createDir (pathOf place)
      | .file bytes =>
        IO.FS.writeBinFile (pathOf place) ⟨(bytes.map UInt8.ofNat).toArray⟩

/-- The working directory without any files in it. -/
def emptyDisk : IO Disk := do
  let path := (toString (← IO.currentDir)).toList
  let place := (Text.splitOn '/' path).filter (!·.isEmpty)
  gatherAll ⟨⟨[]⟩, place⟩ [path]

end Signpost.Program

open Signpost in
def main (arguments : List String) : IO UInt32 := do
  let arguments := arguments.map String.toList
  let disk ← Program.emptyDisk
  let disk ← match Command.Invocation.parse Site.fileName arguments with
    | .ok invocation => Program.gatherAll disk (invocation.task.paths disk invocation.config)
    | .error _ => pure disk
  let outcome := Command.run arguments disk
  Program.apply disk.tree outcome.disk.tree
  IO.print (String.ofList outcome.output)
  IO.eprint (String.ofList outcome.errors)
  return outcome.code.toUInt32
