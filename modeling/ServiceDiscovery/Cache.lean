/-
This file holds the cache of instances on other nodes. Nothing expires by itself: a lookup
drops the outdated instances of the versions that it covers, and containers left empty go with
them. Of one version the fastest instance is best, the one that came first among equals; of
several versions the newest that still has an instance.
-/

import ServiceDiscovery.Instance
import ServiceDiscovery.Shelf

namespace ServiceDiscovery

/-- Instances on other nodes, each version's in the order in which they came. -/
structure Cache where
  lifetime : Duration
  catalog : Catalog (Shelf (List Instance))

namespace Cache

def empty (lifetime : Duration) : Cache :=
  ⟨lifetime, []⟩

/-- The instances of one name and version. -/
def stored (cache : Cache) (name : String) (version : Version) : List Instance :=
  ((cache.catalog.shelf name).get? version).getD []

/-- Adds an instance at the end, or marks the one that is the same as seen now. -/
def insert (occurrence : Instance) (now : Instant) : List Instance → List Instance × Bool
  | [] => ([occurrence], true)
  | existing :: others =>
    if existing.same occurrence then (existing.touch now :: others, false)
    else
      let (rest, isNew) := insert occurrence now others
      (existing :: rest, isNew)

/-- The cache with these instances for a name and version. -/
def withStored (cache : Cache) (name : String) (version : Version) (instances : List Instance) :
    Cache :=
  ⟨cache.lifetime,
    cache.catalog.put name ((cache.catalog.shelf name).put version instances)⟩

/-- Adds an instance and says whether it is new. Instances on this node are refused. -/
def add (cache : Cache) (occurrence : Instance) (now : Instant) : Cache × Bool :=
  if occurrence.isHere then (cache, false)
  else
    match insert occurrence now
      (cache.stored occurrence.identity.name occurrence.identity.version) with
    | (instances, isNew) =>
      (cache.withStored occurrence.identity.name occurrence.identity.version instances, isNew)

/-- The shelf with these instances for the version, or without the version if there are none. -/
def settleVersion (shelf : Shelf (List Instance)) (version : Version)
    (instances : List Instance) : Shelf (List Instance) :=
  if instances.isEmpty then shelf.erase version else shelf.put version instances

/-- The cache with only these instances left of a name and version. -/
def keeping (cache : Cache) (name : String) (version : Version) (instances : List Instance) :
    Cache :=
  ⟨cache.lifetime,
    cache.catalog.settle name (settleVersion (cache.catalog.shelf name) version instances)⟩

/-- The instances other than one. -/
def without (occurrence : Instance) (instances : List Instance) : List Instance :=
  instances.filter fun existing => !existing.same occurrence

/-- Drops an instance and says whether it was there. -/
def remove (cache : Cache) (occurrence : Instance) : Cache × Bool :=
  match (cache.catalog.shelf occurrence.identity.name).get? occurrence.identity.version with
  | none => (cache, false)
  | some instances =>
    (cache.keeping occurrence.identity.name occurrence.identity.version
        (without occurrence instances),
      (without occurrence instances).length < instances.length)

/-- The instances that are not outdated. -/
def fresh (lifetime : Duration) (now : Instant) (instances : List Instance) : List Instance :=
  instances.filter fun occurrence => !occurrence.isOutdated lifetime now

/-- The fastest instance, the first of several. -/
def fastest? : List Instance → Option Instance
  | [] => none
  | occurrence :: others =>
    match fastest? others with
    | none => some occurrence
    | some other => if other.responseTime < occurrence.responseTime then some other
      else some occurrence

/-- The best instance of exactly this version; its outdated instances are dropped. -/
def bestExact (cache : Cache) (name : String) (version : Version) (now : Instant) :
    Option Instance × Cache :=
  match (cache.catalog.shelf name).get? version with
  | none => (none, cache)
  | some instances =>
    (fastest? (fresh cache.lifetime now instances),
      cache.keeping name version (fresh cache.lifetime now instances))

/-- The shelf after a lookup of all versions that fit: none of them keeps an outdated instance,
and no version is left empty. -/
def sweep (lifetime : Duration) (now : Instant) (constraint : Constraint)
    (shelf : Shelf (List Instance)) : Shelf (List Instance) :=
  (shelf.map fun slot =>
    if constraint.fits slot.1 then (slot.1, fresh lifetime now slot.2) else slot).filter
      fun slot => !slot.2.isEmpty

/-- The best instance of the newest version that fits and has one. -/
def bestOf (lifetime : Duration) (now : Instant) (constraint : Constraint)
    (shelf : Shelf (List Instance)) : Option Instance :=
  shelf.reverse.findSome? fun slot =>
    if constraint.fits slot.1 then fastest? (fresh lifetime now slot.2) else none

/-- The best instance of the newest version that fits and has one; the outdated instances of
all versions that fit are dropped. -/
def bestCompatible (cache : Cache) (name : String) (constraint : Constraint) (now : Instant) :
    Option Instance × Cache :=
  match cache.catalog.get? name with
  | none => (none, cache)
  | some shelf =>
    (bestOf cache.lifetime now constraint shelf,
      ⟨cache.lifetime, cache.catalog.settle name (sweep cache.lifetime now constraint shelf)⟩)

/-- Something is stored under the name and version, fresh or not. -/
def contains (cache : Cache) (name : String) (version : Version) : Bool :=
  ((cache.catalog.shelf name).get? version).isSome

/-- Every instance, fresh or not. -/
def snapshot (cache : Cache) : List Instance :=
  cache.catalog.entries.flatten

/-- The number of instances, fresh or not. -/
def size (cache : Cache) : Nat :=
  cache.catalog.foldr
    (fun slot count => slot.2.foldr (fun place rest => place.2.length + rest) 0 + count) 0

def isEmpty (cache : Cache) : Bool :=
  cache.catalog.isEmpty

/-- The cache with everything forgotten. -/
def clear (cache : Cache) : Cache :=
  empty cache.lifetime

end Cache

end ServiceDiscovery
