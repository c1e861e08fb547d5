/-
This file holds the registry of the services on this node. Every identity is held by at most
one handle. Registering under a free identity and unregistering by the holder change exactly
that entry and are announced; a repetition changes nothing, and another handle is refused.
-/

import ServiceDiscovery.Failure
import ServiceDiscovery.Instance
import ServiceDiscovery.Shelf

namespace ServiceDiscovery

/-- What a directory outside is told. -/
inductive Notice where
  | deployed (occurrence : Instance)
  | ended (occurrence : Instance)
  deriving DecidableEq

/-- The services on this node. -/
structure Registry where
  catalog : Catalog (Shelf Instance)

namespace Registry

def empty : Registry := ⟨[]⟩

/-- The instance registered under exactly this name and version. -/
def lookupExact (registry : Registry) (name : String) (version : Version) : Option Instance :=
  (registry.catalog.get? name).bind fun shelf => shelf.get? version

/-- The newest registered version of the name that fits. -/
def lookupCompatible (registry : Registry) (name : String) (constraint : Constraint) :
    Option Instance :=
  (registry.catalog.get? name).bind fun shelf =>
    (shelf.reverse.find? fun slot => constraint.fits slot.1).map Prod.snd

/-- The instance that serves a request; an exact request is served by the pinned version only. -/
def serves (registry : Registry) (request : Request) (exact : Bool) : Option Instance :=
  if exact then
    request.constraint.pinned?.bind fun version => registry.lookupExact request.name version
  else registry.lookupCompatible request.name request.constraint

/-- Registers a handle and says what to announce. -/
def register (registry : Registry) (identity : Identity) (handle : Handle) (now : Instant) :
    Except DiscoveryError (Registry × List Notice) :=
  match registry.lookupExact identity.name identity.version with
  | some existing =>
    if existing.hasHandle handle then .ok (registry, []) else .error (.conflict identity)
  | none =>
    .ok (⟨registry.catalog.put identity.name
        ((registry.catalog.shelf identity.name).put identity.version
          (Instance.here identity handle now))⟩,
      [.deployed (Instance.here identity handle now)])

/-- Unregisters a handle and says what to announce. -/
def unregister (registry : Registry) (identity : Identity) (handle : Handle) :
    Except DiscoveryError (Registry × List Notice) :=
  match registry.lookupExact identity.name identity.version with
  | some existing =>
    if existing.hasHandle handle then
      .ok (⟨registry.catalog.settle identity.name
          ((registry.catalog.shelf identity.name).erase identity.version)⟩,
        [.ended existing])
    else .error (.conflict identity)
  | none => .ok (registry, [])

/-- The handle behind an identity. -/
def handleOf (registry : Registry) (identity : Identity) : Except DiscoveryError Handle :=
  match (registry.lookupExact identity.name identity.version).bind Instance.handle? with
  | some handle => .ok handle
  | none => .error (.notFound identity.asRequest none)

/-- The names with at least one version, in the order of their bytes. -/
def names (registry : Registry) : List String :=
  registry.catalog.sortedNames

/-- The versions of a name, newest first. -/
def versions (registry : Registry) (name : String) : List Version :=
  (registry.catalog.shelf name).versions

/-- Every instance on this node. -/
def snapshot (registry : Registry) : List Instance :=
  registry.catalog.entries

def size (registry : Registry) : Nat :=
  registry.catalog.foldr (fun slot count => slot.2.length + count) 0

def isEmpty (registry : Registry) : Bool :=
  registry.catalog.isEmpty

end Registry

end ServiceDiscovery
