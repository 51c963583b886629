/-
# The program

The outer layer: it reads the arguments, the environment and the files that a
run looks at, and carries out what the run leaves behind.  There is no network
here, so a run that gets as far as its brokers finds none of them.

Source: `main`; `SPEC_FULL.md` 6, the exit codes, and 12.
-/

import OctetRelay.Command.Session

namespace OctetRelay
namespace Program

/-- The text of a path from the root. -/
def pathText (place : FilePath) : String := "/" ++ "/".intercalate place

/-- The path that a text from the root spells, if it has neither `.` nor `..` in it. -/
def pathOf (text : String) : FilePath := (FileTree.pathPieces text).filter fun name => name ≠ ""

/-- What stands under a path on disk. -/
def nodeOnDisk? (place : FilePath) : IO (Option FileNode) := do
  let path := (← IO.currentDir) / pathText place
  if ← path.isDir then return some .directory
  else if ← path.pathExists then return some (.file (← IO.FS.readBinFile path).toList)
  else return none

/-- Where a path on disk leads to.  One that leads nowhere is taken for itself. -/
def realPlace (place : FilePath) : IO FilePath := do
  let path := (← IO.currentDir) / pathText place
  if ← path.pathExists then return pathOf (← IO.FS.realPath path).toString
  else return place

/-- Adds what stands on disk along the names of a path that no link is on. -/
def surveyReal (tree : FileTree) (place : FilePath) : List String → IO FileTree
  | [] => return tree
  | name :: rest => do
    let next := place ++ [name]
    if (tree.node? next).isSome then surveyReal tree next rest
    else
      match ← nodeOnDisk? next with
      | some node => surveyReal (tree.add next node) next rest
      | none => return tree

/-- Adds what stands on disk along the names of a path, links included. -/
def survey (tree : FileTree) (place : FilePath) : List String → IO FileTree
  | [] => return tree
  | name :: rest => do
    if name = ".." then survey tree place.dropLast rest
    else if FileTree.isName name then
      let next := place ++ [name]
      let real ← realPlace next
      let tree ← surveyReal tree [] real
      if real = next then survey tree next rest
      else survey { tree with links := tree.links.insert (next, pathText real) } real rest
    else survey tree place rest

/-- Adds what stands on disk along a written path. -/
def surveyPath (tree : FileTree) (path : String) : IO FileTree :=
  survey tree (tree.start path) (FileTree.pathPieces path)

/-- The part of the disk that a run looks at. -/
def treeOf (arguments : List String) : IO FileTree := do
  let home := pathOf (← IO.currentDir).toString
  let tree ← survey { entries := [], workingDirectory := home } [] home
  match Command.read arguments with
  | .ok (.run config options) => do
    let logs := options.logOptions
    let tree ← surveyPath tree config
    let tree ← surveyPath tree logs.directory
    [logs.infoName, logs.errorName].foldlM (fun tree name =>
      match LogFiles.baseName? name with
      | some base => surveyPath tree (LogFiles.joined logs.directory base)
      | none => pure tree) tree
  | _ => return tree

/-- Makes on disk what is new in a tree, and removes what is gone from it. -/
def carryOut (before after : FileTree) : IO Unit := do
  for (place, _) in before.entries do
    if after.node? place = none then IO.FS.removeFile (pathText place)
  for (place, _) in before.links do
    if after.links.lookup place = none then IO.FS.removeFile (pathText place)
  for (place, node) in after.entries do
    if before.node? place ≠ some node then
      match node with
      | .directory => IO.FS.createDir (pathText place)
      | .file content => IO.FS.writeBinFile (pathText place) (.mk content.toArray)

/-- The variables of the environment. -/
def readEnvironment : IO Command.Environment := do
  let block ← IO.FS.readBinFile "/proc/self/environ"
  let assignments := Text.pieces '\x00' (Text.decodeLenient block.toList).toList
  let entries := assignments.map fun assignment =>
    let name := assignment.takeWhile (· ≠ '=')
    (String.ofList name, String.ofList (assignment.drop (name.length + 1)))
  return entries.filter fun entry => entry.1 ≠ ""

end Program
end OctetRelay

open OctetRelay in
/-- Runs the program with the arguments of its command line. -/
def main (arguments : List String) : IO UInt32 := do
  let before ← Program.treeOf arguments
  let environment ← Program.readEnvironment
  let outcome := Command.run (.unreachable true 0) arguments environment before
  Program.carryOut before outcome.files
  IO.print outcome.stdout
  IO.eprint outcome.stderr
  match outcome.exit with
  | some code => return code.toUInt32
  | none =>
    IO.eprintln "Error: no broker could be reached"
    return 1
