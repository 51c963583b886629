/-
# The log files

There are two log files, both direct children of the log directory: of the
names that are asked for only the last part counts, and a name without such a
part is refused.  The directory is made where it is missing, and on demand the
log files of an earlier run are removed.

Source: `LogOptions`, `file_name` and `prepare`; `SPEC_FULL.md` 10, the options
of the logs.
-/

import OctetRelay.FileTree
import OctetRelay.Text.Quoted

namespace OctetRelay

/-- Where to log, and how much. -/
structure LogOptions where
  directory : String := "logs"
  infoName : String := "log.info"
  errorName : String := "log.error"
  level : String := "trace"
  removeExisting : Bool := false
  deriving DecidableEq, Repr

/-- The two log files. -/
structure LogPaths where
  info : FilePath
  error : FilePath
  deriving DecidableEq, Repr

/-- Why there is no place to log to. -/
inductive LogFault where
  | noDirectory (path : String) (fault : FileFault)
  | badName (name : String)
  | notRemoved (path : String) (fault : FileFault)
  deriving DecidableEq, Repr

/-- The text of a log fault. -/
def LogFault.message : LogFault → String
  | .noDirectory path fault =>
    "Failed to create log directory " ++ path ++ ": " ++ fault.message
  | .badName name => "Invalid log file name " ++ Text.quoted name
  | .notRemoved path fault => "Failed to remove log file " ++ path ++ ": " ++ fault.message

namespace LogFiles

/-- The last part of a file name, if that is a name of its own. -/
def baseName? (name : String) : Option String :=
  match ((FileTree.pathPieces name).filter fun piece => piece ≠ "" && piece ≠ ".").getLast? with
  | some base => if base = ".." then none else some base
  | none => none

/-- A directory and the name of a child, written as one path. -/
def joined (directory name : String) : String :=
  if directory = "" ∨ "/".toList.isSuffixOf directory.toList then directory ++ name
  else directory ++ "/" ++ name

/-- A file tree after the log files were prepared. -/
structure Prepared where
  tree : FileTree
  result : Except LogFault LogPaths

/-- Removes a log file, if there is one. -/
def removeLog (tree : FileTree) (options : LogOptions) (name : String) :
    FileTree × Option LogFault :=
  let path := joined options.directory name
  let changed := tree.removeFile path
  match changed.result with
  | .ok () => (changed.tree, none)
  | .error .notFound => (changed.tree, none)
  | .error fault => (changed.tree, some (.notRemoved path fault))

/-- Removes the two log files, the second only if the first is no trouble. -/
def removeLogs (tree : FileTree) (options : LogOptions) (place : FilePath) (info error : String) :
    Prepared :=
  match removeLog tree options info with
  | (tree, some fault) => { tree, result := .error fault }
  | (tree, none) =>
    match removeLog tree options error with
    | (tree, some fault) => { tree, result := .error fault }
    | (tree, none) => { tree, result := .ok ⟨place ++ [info], place ++ [error]⟩ }

/-- Prepares the log files: the directory first, then both names, then the removal. -/
def prepare (tree : FileTree) (options : LogOptions) : Prepared :=
  let made := tree.makeDirectories options.directory
  match made.result with
  | .error fault => { tree := made.tree, result := .error (.noDirectory options.directory fault) }
  | .ok place =>
    match baseName? options.infoName, baseName? options.errorName with
    | none, _ => { tree := made.tree, result := .error (.badName options.infoName) }
    | some _, none => { tree := made.tree, result := .error (.badName options.errorName) }
    | some info, some error =>
      if options.removeExisting then removeLogs made.tree options place info error
      else { tree := made.tree, result := .ok ⟨place ++ [info], place ++ [error]⟩ }

end LogFiles
end OctetRelay
