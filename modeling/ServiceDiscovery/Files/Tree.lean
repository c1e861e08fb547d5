/-
This file holds a tree of files and what can be done to it: reading and writing files, and
making directories. Every piece of a path has to lead through a directory, and names and paths
have a greatest length.
-/

import ServiceDiscovery.Files.Path

namespace ServiceDiscovery

/-- What stands at a place of a tree. -/
inductive Entry where
  | directory
  | file (content : Bytes)
  deriving DecidableEq, Repr

/-- A place of a tree: the names on the way from its root. -/
abbrev Place := List String

/-- Everything below a root, and the directory from which relative paths start. -/
structure FileTree where
  entries : List (Place × Entry)
  workingDirectory : Place

/-- Why something cannot be done to a tree. -/
inductive FileFault where
  | notFound
  | notDirectory
  | isDirectory
  | occupied
  | tooLong
  deriving DecidableEq, Repr

namespace FileTree

/-- The longest name, in bytes. -/
def longestName : Nat := 255

/-- The longest path, in bytes. -/
def longestPath : Nat := 4095

/-- What stands at a place; the root is a directory. -/
def at? (tree : FileTree) (place : Place) : Option Entry :=
  if place.isEmpty then some .directory
  else (tree.entries.find? fun entry => entry.1 == place).map Prod.snd

/-- The tree with another entry at a place. -/
def put (tree : FileTree) (place : Place) (entry : Entry) : FileTree :=
  { tree with
    entries := (tree.entries.filter fun existing => existing.1 != place) ++ [(place, entry)] }

/-! ### Resolving paths -/

/-- The place that pieces lead to. Only the last one may lead to nothing. -/
def walk (tree : FileTree) : Place → List String → Except FileFault Place
  | place, [] => .ok place
  | place, piece :: others =>
    match tree.at? place with
    | none => .error .notFound
    | some (.file _) => .error .notDirectory
    | some .directory =>
      if Path.isIdle piece then walk tree place others
      else if piece = ".." then walk tree place.dropLast others
      else if longestName < (Utf8.encode piece).length then .error .tooLong
      else walk tree (place ++ [piece]) others

/-- Where a path starts, if it can be resolved at all. -/
def start (tree : FileTree) (path : Path) : Except FileFault Place :=
  if path.isEmpty then .error .notFound
  else if longestPath < path.size then .error .tooLong
  else .ok (if path.isAbsolute then [] else tree.workingDirectory)

/-- The place of the directory that pieces lead to. -/
def directoryAt (tree : FileTree) (path : Path) (pieces : List String) : Except FileFault Place := do
  tree.walk (← tree.start path) (pieces ++ [""])

/-- What stands at a path. -/
def entry (tree : FileTree) (path : Path) : Except FileFault Entry := do
  match tree.at? (← tree.walk (← tree.start path) path.pieces) with
  | some entry => .ok entry
  | none => .error .notFound

/-- Something stands at a path. -/
def contains (tree : FileTree) (path : Path) : Bool :=
  match tree.entry path with
  | .ok _ => true
  | .error _ => false

def isDirectory (tree : FileTree) (path : Path) : Bool :=
  match tree.entry path with
  | .ok .directory => true
  | _ => false

/-- The content of the file at a path. -/
def read (tree : FileTree) (path : Path) : Except FileFault Bytes := do
  match ← tree.entry path with
  | .directory => .error .isDirectory
  | .file content => .ok content

/-! ### Changing a tree -/

/-- The place of a name in the directory that pieces lead to, and what stands there. -/
def slot (tree : FileTree) (path : Path) (pieces : List String) (name : String) :
    Except FileFault (Place × Option Entry) := do
  let directory ← tree.directoryAt path pieces
  if longestName < (Utf8.encode name).length then .error .tooLong
  else .ok (directory ++ [name], tree.at? (directory ++ [name]))

/-- The piece is no name of its own. -/
def isNameless (piece : String) : Bool :=
  Path.isIdle piece || piece == ".."

/-- Puts a file at a path, in place of a file that stands there. -/
def write (tree : FileTree) (path : Path) (content : Bytes) : Except FileFault FileTree :=
  match path.pieces.reverse with
  | [] => .error .notFound
  | name :: front => do
    if isNameless name then
      let _ ← tree.directoryAt path front.reverse
      .error .isDirectory
    else
      match ← tree.slot path front.reverse name with
      | (_, some .directory) => .error .isDirectory
      | (place, _) => .ok (tree.put place (.file content))

/-- Makes a directory where nothing stands yet. -/
def makeDirectory (tree : FileTree) (path : Path) : Except FileFault FileTree :=
  match path.pieces.reverse.dropWhile fun piece => piece == "" with
  | [] => if path.isAbsolute then .error .occupied else .error .notFound
  | name :: front => do
    if isNameless name then
      let _ ← tree.directoryAt path front.reverse
      .error .occupied
    else
      match ← tree.slot path front.reverse name with
      | (_, some _) => .error .occupied
      | (place, none) => .ok (tree.put place .directory)

/-- Makes a directory, unless it is there. -/
def ensureDirectory (tree : FileTree) (path : Path) : Except FileFault FileTree :=
  match tree.makeDirectory path with
  | .ok tree => .ok tree
  | .error fault => if tree.isDirectory path then .ok tree else .error fault

/-- Makes a directory and those above it that are missing. The steps are those of its path, the
last one first. The tree keeps what was made before a failure. -/
def makeAll (isAbsolute : Bool) : List String → FileTree → FileTree × Except FileFault Unit
  | [], tree => (tree, .ok ())
  | name :: front, tree =>
    match tree.ensureDirectory ⟨isAbsolute, (name :: front).reverse⟩ with
    | .ok tree => (tree, .ok ())
    | .error .notFound =>
      match makeAll isAbsolute front tree with
      | (tree, .error fault) => (tree, .error fault)
      | (tree, .ok ()) =>
        match tree.ensureDirectory ⟨isAbsolute, (name :: front).reverse⟩ with
        | .ok tree => (tree, .ok ())
        | .error fault => (tree, .error fault)
    | .error fault => (tree, .error fault)

/-- Makes the directory of a path and those above it that are missing. -/
def makeDirectories (tree : FileTree) (path : Path) : FileTree × Except FileFault Unit :=
  makeAll path.isAbsolute path.steps.reverse tree

end FileTree

end ServiceDiscovery
