/-
# File trees

A file tree holds directories, files and symbolic links under paths, and a path is
the list of the names that lead to it from the root.  A path written as text is
resolved one name after the other, from the root if it starts with `/` and from the
working directory otherwise; `.` and `..` go through directories only.  A name has at
most 255 octets, and a written path has fewer than 4096.

A link on the way is followed from the directory that holds it, and no more than 40
of them are.  What is made or removed is what the last name of a path stands for
itself: there a link is not followed.

What may not be done at which path, for want of permission say, belongs to the tree.

Source: the file operations of `prepare` and of loading a configuration;
`SPEC_FULL.md` 10 and 11.
-/

import OctetRelay.Settings.Fault
import OctetRelay.Text.Pieces
import OctetRelay.Text.Utf8

namespace OctetRelay

/-- What stands under a path. -/
inductive FileNode where
  | directory
  | file (content : Octets)
  deriving DecidableEq, Repr

/-- What stands under a path, links included. -/
inductive FileItem where
  | node (node : FileNode)
  /-- Stands for another path, as it is written. -/
  | link (target : String)
  deriving DecidableEq, Repr

/-- What may be refused at a path. -/
inductive FileAccess where
  /-- To follow names from the directory. -/
  | enter
  /-- To read the file, or to write to it. -/
  | content
  /-- To make or remove what stands there. -/
  | change
  deriving DecidableEq, Repr

/-- The names that lead from the root to a file or directory. -/
abbrev FilePath := List String

/-- Directories and files under their paths, and the working directory.  The root is always
there. -/
structure FileTree where
  entries : List (FilePath × FileNode)
  workingDirectory : FilePath := []
  /-- The symbolic links, which count where there is no entry. -/
  links : List (FilePath × String) := []
  /-- What is refused at which paths, and why. -/
  refusals : List ((FilePath × FileAccess) × String) := []
  deriving DecidableEq

namespace FileTree

/-- The directory or file under a path. -/
def node? (tree : FileTree) (path : FilePath) : Option FileNode :=
  if path = [] then some .directory else tree.entries.lookup path

/-- What stands under a path. -/
def item? (tree : FileTree) (path : FilePath) : Option FileItem :=
  ((tree.node? path).map .node).or ((tree.links.lookup path).map .link)

/-- Adds a file or directory where there is nothing. -/
def add (tree : FileTree) (path : FilePath) (node : FileNode) : FileTree :=
  { tree with entries := tree.entries ++ [(path, node)] }

/-- Removes whatever stands under a path. -/
def erase (tree : FileTree) (path : FilePath) : FileTree :=
  { tree with
    entries := tree.entries.filter fun entry => entry.1 ≠ path
    links := tree.links.filter fun link => link.1 ≠ path }

/-- Writes octets to the end of a file, which is made if it is not there. -/
def append (tree : FileTree) (path : FilePath) (octets : Octets) : FileTree :=
  match tree.node? path with
  | none => tree.add path (.file octets)
  | some .directory => tree
  | some (.file content) =>
    { tree with
      entries := tree.entries.map fun entry =>
        if entry.1 = path then (path, .file (content ++ octets)) else entry }

/-- Whether a name in a written path is a step to another place. -/
def isName (name : String) : Bool := name ≠ "" && name ≠ "." && name ≠ ".."

/-- The names of a written path, empty ones included. -/
def pathPieces (path : String) : List String := (Text.pieces '/' path.toList).map String.ofList

/-- Where the resolution of a written path starts that is met in a directory. -/
def origin (directory : FilePath) (path : String) : FilePath :=
  if "/".toList.isPrefixOf path.toList then [] else directory

/-- Where the resolution of a written path starts. -/
def start (tree : FileTree) (path : String) : FilePath := origin tree.workingDirectory path

/-- Checks that there is a directory under a path. -/
def requireDirectory (tree : FileTree) (path : FilePath) : Except FileFault Unit :=
  match tree.item? path with
  | some (.node .directory) => .ok ()
  | some _ => .error .notDirectory
  | none => .error .notFound

/-- Checks that nothing forbids an access. -/
def requireAllowed (tree : FileTree) (access : FileAccess) (path : FilePath) :
    Except FileFault Unit :=
  match tree.refusals.lookup (path, access) with
  | some reason => .error (.refused reason)
  | none => .ok ()

/-- Checks that a name is short enough. -/
def requireShort (name : String) : Except FileFault Unit :=
  if 255 < name.utf8ByteSize then .error .nameTooLong else .ok ()

/-- Where names lead. -/
inductive Reached where
  | place (place : FilePath)
  /-- To a link in a directory. -/
  | link (directory : FilePath) (target : String)
  deriving DecidableEq, Repr

/-- Follows one name of a written path. -/
def advance (tree : FileTree) (place : FilePath) (name : String) : Except FileFault Reached := do
  tree.requireDirectory place
  if name = "" then .ok (.place place)
  else do
    tree.requireAllowed .enter place
    if isName name then do
      requireShort name
      match tree.item? (place ++ [name]) with
      | some (.link target) => .ok (.link place target)
      | _ => .ok (.place (place ++ [name]))
    else if name = ".." then .ok (.place place.dropLast)
    else .ok (.place place)

/-- Follows names up to the first link, and tells which names are left. -/
def walk (tree : FileTree) (place : FilePath) :
    List String → Except FileFault (Reached × List String)
  | [] => .ok (.place place, [])
  | name :: rest => do
    match ← tree.advance place name with
    | .place next => walk tree next rest
    | .link directory target => .ok (.link directory target, rest)

/-- Follows names, and so many links that they lead to. -/
def followLinks (tree : FileTree) (links : Nat) (place : FilePath) (names : List String) :
    Except FileFault FilePath :=
  match tree.walk place names with
  | .error fault => .error fault
  | .ok (.place place, _) => .ok place
  | .ok (.link directory target, rest) =>
    match links with
    | 0 => .error .tooManyLinks
    | links + 1 =>
      tree.followLinks links (origin directory target) (pathPieces target ++ rest)

/-- Follows the names of a written path. -/
def follow (tree : FileTree) (place : FilePath) (names : List String) :
    Except FileFault FilePath :=
  tree.followLinks 40 place names

/-- Checks that a written path is short enough. -/
def requireShortPath (path : String) : Except FileFault Unit :=
  if 4096 ≤ path.utf8ByteSize then .error .nameTooLong else .ok ()

/-- The path that a text spells. -/
def resolve (tree : FileTree) (path : String) : Except FileFault FilePath := do
  requireShortPath path
  tree.follow (tree.start path) (pathPieces path)

/-- Whether there is a directory under a written path. -/
def isDirectory (tree : FileTree) (path : String) : Bool :=
  match tree.resolve path with
  | .ok place => tree.node? place = some .directory
  | .error _ => false

/-- The content of the file under a written path. -/
def read (tree : FileTree) (path : String) : Except FileFault Octets := do
  let place ← tree.resolve path
  match tree.node? place with
  | none => .error .notFound
  | some node => do
    tree.requireAllowed .content place
    match node with
    | .file content => .ok content
    | .directory => .error .isDirectory

/-- The text of the file under a written path. -/
def readText (tree : FileTree) (path : String) : Except FileFault String := do
  match Text.decodeStrict? (← tree.read path) with
  | some text => .ok text
  | none => .error .notText

/-- A tree after an attempt to change it. -/
structure Changed (α : Type) where
  tree : FileTree
  result : Except FileFault α

/-- Names without the empty ones at their end. -/
def withoutEmptyEnd (names : List String) : List String :=
  (names.reverse.dropWhile (· = "")).reverse

/-- The path that the last name of a written path stands for itself.  All that leads to it has to
be there.  The root, `.` and `..` have no name of their own. -/
def child? (tree : FileTree) (path : String) : Except FileFault (Option FilePath) := do
  requireShortPath path
  let names := withoutEmptyEnd (pathPieces path)
  match names.getLast? with
  | none => .ok none
  | some name => do
    let place ← tree.follow (tree.start path) names.dropLast
    tree.requireDirectory place
    tree.requireAllowed .enter place
    if isName name then do
      requireShort name
      .ok (some (place ++ [name]))
    else .ok none

/-- Where a directory with a written path can be made: its last name has to be new. -/
def freePlace (tree : FileTree) (path : String) : Except FileFault FilePath := do
  match ← tree.child? path with
  | none => .error .exists
  | some place =>
    if (tree.item? place).isSome then .error .exists
    else do
      tree.requireAllowed .change place
      .ok place

/-- Makes a directory. -/
def makeDirectory (tree : FileTree) (path : String) : Changed Unit :=
  match tree.freePlace path with
  | .ok place => { tree := tree.add place .directory, result := .ok () }
  | .error fault => { tree, result := .error fault }

/-- The steps of a written path: its names, without empty ones and without `.` except at the start
of a path that is relative. -/
def steps (path : String) : List String :=
  match pathPieces path with
  | "." :: rest => "." :: rest.filter fun name => name ≠ "" && name ≠ "."
  | names => names.filter fun name => name ≠ "" && name ≠ "."

/-- The written paths of the directories above a path, the innermost first. -/
def parents (path : String) : List String :=
  let root := if "/".toList.isPrefixOf path.toList then "/" else ""
  let names := steps path
  let lengths := (List.range names.length).drop 1
  lengths.reverse.map fun length => root ++ "/".intercalate (names.take length)

/-- The attempt to make a directory, which counts as a success where there is one already. -/
def Changed.settled (made : Changed Unit) (path : String) : Changed Unit :=
  match made.result with
  | .ok () => made
  | .error _ => if made.tree.isDirectory path then { made with result := .ok () } else made

/-- Makes the first of some directories, each of which lies in the next one, and those of them that
it lacks. -/
def makeNested (tree : FileTree) : List String → Changed Unit
  | [] => { tree, result := .ok () }
  | path :: above =>
    let made := tree.makeDirectory path
    match made.result with
    | .error .notFound =>
      let nested := tree.makeNested above
      match nested.result with
      | .ok () => (nested.tree.makeDirectory path).settled path
      | .error _ => nested
    | _ => made.settled path

/-- Makes a directory, and those that lead to it. -/
def makeDirectories (tree : FileTree) (path : String) : Changed FilePath :=
  let made :=
    if path = "" then { tree, result := .ok () } else tree.makeNested (path :: parents path)
  { tree := made.tree, result := made.result.bind fun () => made.tree.resolve path }

/-- Where the file or link with a written path can be removed.  A path that ends in a separator
means a directory. -/
def filledPlace (tree : FileTree) (path : String) : Except FileFault FilePath := do
  match ← tree.child? path with
  | none => .error .isDirectory
  | some place =>
    match tree.item? place with
    | none => .error .notFound
    | some item =>
      if (pathPieces path).getLast? = some "" then
        .error (if item = .node .directory then .isDirectory else .notDirectory)
      else do
        tree.requireAllowed .change place
        if item = .node .directory then .error .isDirectory else .ok place

/-- Removes the file or link with a written path. -/
def removeFile (tree : FileTree) (path : String) : Changed Unit :=
  match tree.filledPlace path with
  | .ok place => { tree := tree.erase place, result := .ok () }
  | .error fault => { tree, result := .error fault }

end FileTree
end OctetRelay
