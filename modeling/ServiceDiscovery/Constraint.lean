/-
This file holds version constraints: any version, every version with the given components,
the versions of one major line from a base on, or exactly one version. It says which versions
fit, which single version an exact request addresses, and how a constraint is read and written.
-/

import ServiceDiscovery.Version

namespace ServiceDiscovery

/-- The versions that a request accepts. -/
inductive Constraint where
  | any
  | matching (given : Components)
  | caret (base : Version)
  | exact (version : Version)
  deriving DecidableEq, Repr

/-- The version has every given component. -/
def Components.fittedBy : Components → Version → Bool
  | .one major, version => version.major == major
  | .two major minor, version => version.major == major && version.minor == minor
  | .three major minor patch, version =>
    version.major == major && version.minor == minor && version.patch == patch

namespace Constraint

/-- The version is one that the constraint accepts. -/
def fits : Constraint → Version → Bool
  | .any, _ => true
  | .matching given, version => given.fittedBy version
  | .caret base, version => version.major == base.major && base.atMost version
  | .exact wanted, version => version == wanted

/-- The version that an exact request addresses; `*` names none. -/
def pinned? : Constraint → Option Version
  | .any => none
  | .matching given => some (Version.ofComponents given)
  | .caret base => some base
  | .exact version => some version

def ofChars (text : List Char) : Except VersionError Constraint :=
  match Text.trim text with
  | ['*'] => .ok .any
  | '^' :: rest => (Version.ofChars rest).map .caret
  | '=' :: rest => (Version.ofChars rest).map .exact
  | trimmed => (Components.ofChars trimmed).map .matching

/-- The constraint that a text states. -/
def parse (text : String) : Except VersionError Constraint :=
  ofChars text.toList

def toChars : Constraint → List Char
  | .any => ['*']
  | .matching given => given.toChars
  | .caret base => '^' :: base.toChars
  | .exact version => '=' :: version.toChars

def display (constraint : Constraint) : String :=
  String.ofList constraint.toChars

end Constraint

end ServiceDiscovery
