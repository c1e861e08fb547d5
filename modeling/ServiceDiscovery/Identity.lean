/-
This file holds what services are called: an identity is a name with one concrete version, and
a request is a name with the versions that are welcome. Identities are ordered by the bytes of
the name, then by version.
-/

import ServiceDiscovery.Constraint

namespace ServiceDiscovery

/-- The agent that answers for a service. -/
abbrev AgentId := String

/-- What a caller asks for. -/
structure Request where
  name : String
  constraint : Constraint
  deriving DecidableEq, Repr

def Request.parse (name constraint : String) : Except VersionError Request := do
  .ok ⟨name, ← Constraint.parse constraint⟩

def Request.display (request : Request) : String :=
  request.name ++ "@" ++ request.constraint.display

/-- One version of one service. -/
structure Identity where
  name : String
  version : Version
  deriving DecidableEq, Repr

namespace Identity

def parse (name version : String) : Except VersionError Identity := do
  .ok ⟨name, ← Version.parse version⟩

def display (identity : Identity) : String :=
  identity.name ++ "@" ++ identity.version.display

/-- The request that only this identity satisfies. -/
def asRequest (identity : Identity) : Request :=
  ⟨identity.name, .exact identity.version⟩

/-- The order of byte sequences: by the first difference, a shorter one before its extensions. -/
def compareBytes : Bytes → Bytes → Ordering
  | [], [] => .eq
  | [], _ :: _ => .lt
  | _ :: _, [] => .gt
  | first :: others, second :: rest => (Ord.compare first second).then (compareBytes others rest)

/-- The order of names by their bytes. -/
def compareNames (first second : String) : Ordering :=
  compareBytes (Utf8.encode first) (Utf8.encode second)

def compare (first second : Identity) : Ordering :=
  (compareNames first.name second.name).then (first.version.compare second.version)

def atMost (first second : Identity) : Bool :=
  (first.compare second).isLE

/-- Identities in ascending order. -/
def sorted (identities : List Identity) : List Identity :=
  identities.mergeSort atMost

end Identity

end ServiceDiscovery
