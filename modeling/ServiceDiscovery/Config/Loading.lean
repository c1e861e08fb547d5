/-
This file finds the settings of a node: the environment names their file, the file states them,
and the environment has the last word. A file with the defaults can be written where there is
none yet.
-/

import ServiceDiscovery.Config.Reading
import ServiceDiscovery.Files.Tree

namespace ServiceDiscovery.Config

/-- Why there are no settings, or no file with them. -/
inductive Error where
  | readFailed
  | parseFailed
  | writeFailed
  deriving DecidableEq, Repr

/-! ### Where the file is -/

/-- The directory for the settings of all programs. -/
def baseDirectory (environment : Environment) : String :=
  match environment "XDG_CONFIG_HOME" with
  | some directory => directory
  | none => Path.join ((environment "HOME").getD "/tmp") ".config"

/-- The path of the file with the settings. -/
def filePath (environment : Environment) : String :=
  match environment "CAIRN_CONFIG" with
  | some path => path
  | none => Path.join (Path.join (baseDirectory environment) "cairn") "config.toml"

/-! ### Reading it -/

/-- The settings in the file at a path. -/
def fromFile (files : FileTree) (path : String) : Except Error Settings :=
  match (files.read (Path.ofText path)).toOption.bind Utf8.decode? with
  | none => .error .readFailed
  | some text =>
    match Settings.ofText? text with
    | some settings => .ok settings
    | none => .error .parseFailed

/-- The settings in the file, or the defaults if there is none. -/
def stated (environment : Environment) (files : FileTree) : Except Error Settings :=
  if files.contains (Path.ofText (filePath environment)) then
    fromFile files (filePath environment)
  else .ok Settings.standard

/-- The settings that apply. -/
def load (environment : Environment) (files : FileTree) : Except Error Settings :=
  (stated environment files).map environment.overrideAll

/-! ### Writing it -/

/-- Makes the directories above a path. A path without a parent has none. -/
def makeParents (files : FileTree) (path : Path) : FileTree × Except FileFault Unit :=
  match path.parent? with
  | some parent => files.makeDirectories parent
  | none => (files, .ok ())

/-- Writes the defaults to a path, and makes the directories above it. -/
def writeStandard (files : FileTree) (path : Path) : FileTree × Except Error Unit :=
  match makeParents files path with
  | (files, .error _) => (files, .error .writeFailed)
  | (files, .ok ()) =>
    match files.write path (Utf8.encode Settings.standardText) with
    | .ok files => (files, .ok ())
    | .error _ => (files, .error .writeFailed)

/-- Writes a file with the defaults if there is none, and says where it is. -/
def writeIfMissing (environment : Environment) (files : FileTree) :
    FileTree × Except Error String :=
  if files.contains (Path.ofText (filePath environment)) then (files, .ok (filePath environment))
  else
    match writeStandard files (Path.ofText (filePath environment)) with
    | (files, .ok ()) => (files, .ok (filePath environment))
    | (files, .error error) => (files, .error error)

end ServiceDiscovery.Config
