import DeviceConfig.Build.FilePath

/-!
The files below a directory, and what reading and writing does to them. Nothing is known of the files
outside: none of them can be read, and what is written there is lost.
-/

namespace DeviceConfig

open FilePath

/-- The steps from the directory to a place, last first; none of them could be taken back. -/
abbrev Place := List Part

structure FileTree where
  files : List (Place × String)
  /-- The folders besides the directory itself and those around it. -/
  folders : List Place
  deriving Repr, DecidableEq

namespace FileTree

def empty : FileTree := ⟨[], []⟩

def isOutside (step : Part) : Bool := step == .up || step == .root

def isFolder (tree : FileTree) (place : Place) : Bool :=
  place.all isOutside || tree.folders.contains place

def contentAt? (tree : FileTree) (place : Place) : Option String := tree.files.lookup place

/-- The folder to which the steps lead from a folder. -/
def folder? (tree : FileTree) (place : Place) : List Part → Option Place
  | [] => some place
  | step :: rest =>
    let next := walk place step
    if tree.isFolder next then tree.folder? next rest else none

def read? (tree : FileTree) (path : String) : Option String := do
  let (steps, name) ← file? path
  let folder ← tree.folder? [] steps
  tree.contentAt? (.name name :: folder)

/-- The folder to which the steps lead, after those on the way that are missing are made. -/
def makeFolders (tree : FileTree) (place : Place) : List Part → Option (FileTree × Place)
  | [] => some (tree, place)
  | step :: rest =>
    let next := walk place step
    if (tree.contentAt? next).isSome then none
    else if tree.isFolder next then tree.makeFolders next rest
    else FileTree.makeFolders { tree with folders := next :: tree.folders } next rest

def setContent (place : Place) (content : String) : List (Place × String) → List (Place × String)
  | [] => [(place, content)]
  | (p, c) :: rest =>
    if p == place then (p, content) :: rest else (p, c) :: setContent place content rest

/-- The tree after a file is written together with the folders that it needs. -/
def write? (tree : FileTree) (path content : String) : Option FileTree := do
  let (steps, name) ← file? path
  let (made, folder) ← tree.makeFolders [] steps
  let place : Place := .name name :: folder
  if made.isFolder place then none
  else some { made with files := setContent place content made.files }

/-- Writes files in order; stops at the first that cannot be written and gives its path. -/
def writeAll (tree : FileTree) : List (String × String) → FileTree × Option String
  | [] => (tree, none)
  | (path, content) :: rest =>
    match tree.write? path content with
    | some written => written.writeAll rest
    | none => (tree, some path)

def ofFiles (files : List (String × String)) : FileTree := (empty.writeAll files).1

/-- The files inside the directory that `tree` has and `before` has not, or not with this content. -/
def changes (before tree : FileTree) : List (String × String) :=
  (tree.files.filter fun (place, content) =>
    !place.any isOutside && before.contentAt? place != some content).map fun (place, content) =>
      (ofParts place.reverse, content)

end FileTree

end DeviceConfig
