/-
This file holds service versions and the reading of their text form. A text gives one to three
components joined by dots, with any white space around them taken off; a version fills the
components that are left out with zero, and prints with all three.
-/

import ServiceDiscovery.Text.Blank
import ServiceDiscovery.Text.Natural
import ServiceDiscovery.Text.Quoted
import ServiceDiscovery.Text.Separated

namespace ServiceDiscovery

/-- Why a text names no version. -/
inductive VersionError where
  | empty
  | invalidComponent (component : String)
  | tooManyComponents (text : String)
  deriving DecidableEq, Repr

def VersionError.message : VersionError → String
  | .empty => "empty version string"
  | .invalidComponent component => "invalid version component " ++ Text.quoted component
  | .tooManyComponents text => "too many version components in " ++ Text.quoted text

/-! ### Components -/

/-- The components that a text gives: only leading ones can be given alone. -/
inductive Components where
  | one (major : UInt32)
  | two (major minor : UInt32)
  | three (major minor patch : UInt32)
  deriving DecidableEq, Repr

namespace Components

/-- One component: decimal digits, with at most one plus sign in front. -/
def readOne (text : List Char) : Except VersionError UInt32 :=
  match Text.bounded? UInt32.size text with
  | some value => .ok (UInt32.ofNat value)
  | none => .error (.invalidComponent (String.ofList text))

/-- The values of the pieces in order, or the complaint about the first bad one. -/
def readAll : List (List Char) → Except VersionError (List UInt32)
  | [] => .ok []
  | piece :: others => do
    let value ← readOne piece
    let values ← readAll others
    .ok (value :: values)

/-- The components of a text. A bad component is reported even if there are too many. -/
def ofChars (text : List Char) : Except VersionError Components := do
  let trimmed := Text.trim text
  if trimmed.isEmpty then .error .empty
  else
    match ← readAll (Text.pieces '.' trimmed) with
    | [major] => .ok (.one major)
    | [major, minor] => .ok (.two major minor)
    | [major, minor, patch] => .ok (.three major minor patch)
    | _ => .error (.tooManyComponents (String.ofList trimmed))

def toChars : Components → List Char
  | .one major => Text.decimal major.toNat
  | .two major minor => Text.decimal major.toNat ++ '.' :: Text.decimal minor.toNat
  | .three major minor patch =>
    Text.decimal major.toNat ++ '.' :: Text.decimal minor.toNat ++ '.' :: Text.decimal patch.toNat

end Components

/-! ### Versions -/

/-- A concrete service version. -/
structure Version where
  major : UInt32
  minor : UInt32
  patch : UInt32
  deriving DecidableEq, Repr

namespace Version

/-- The version with zero for every component that is not given. -/
def ofComponents : Components → Version
  | .one major => ⟨major, 0, 0⟩
  | .two major minor => ⟨major, minor, 0⟩
  | .three major minor patch => ⟨major, minor, patch⟩

/-- All three components of a version. -/
def components (version : Version) : Components :=
  .three version.major version.minor version.patch

def ofChars (text : List Char) : Except VersionError Version :=
  (Components.ofChars text).map ofComponents

/-- The version that a text names. -/
def parse (text : String) : Except VersionError Version :=
  ofChars text.toList

def toChars (version : Version) : List Char :=
  version.components.toChars

/-- All three components, joined by dots. -/
def display (version : Version) : String :=
  String.ofList version.toChars

/-- The order by major, then minor, then patch. -/
def compare (first second : Version) : Ordering :=
  (Ord.compare first.major second.major).then
    ((Ord.compare first.minor second.minor).then (Ord.compare first.patch second.patch))

/-- The first version is the second or an older one. -/
def atMost (first second : Version) : Bool :=
  (first.compare second).isLE

end Version

end ServiceDiscovery
