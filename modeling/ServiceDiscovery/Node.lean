/-
This file holds a node: its resolver, its clock, the log of what it announced and the keys of
handles that are still free. Every operation of a node works at the clock's reading.
-/

import ServiceDiscovery.Announcing
import ServiceDiscovery.Hosting
import ServiceDiscovery.Resolver

namespace ServiceDiscovery

/-- A node at a moment. -/
structure Node where
  resolver : Resolver
  now : Instant
  log : List Announcement
  announcing : Announcing
  nextKey : Nat

namespace Node

/-- A node at the clock's zero that knows nothing. -/
def empty (id : NodeId) (lifetime : Duration) : Node :=
  ⟨Resolver.empty id lifetime, Instant.zero, [], .idle, 0⟩

def id (node : Node) : NodeId :=
  node.resolver.node

def registry (node : Node) : Registry :=
  node.resolver.registry

def cache (node : Node) : Cache :=
  node.resolver.cache

/-- A handle that no other is the same as. -/
def newHandle (node : Node) (agent : AgentId) : Handle × Node :=
  (⟨node.nextKey, agent⟩, { node with nextKey := node.nextKey + 1 })

/-! ### Services on this node -/

/-- The node with another registry, and the notices of the change in its log. -/
def withRegistry (node : Node) (registry : Registry) (notices : List Notice) : Node :=
  { node with
    resolver := { node.resolver with registry := registry }
    log := node.log ++ notices.map (Announcement.ofNotice node.now) }

def register (node : Node) (identity : Identity) (handle : Handle) :
    Except DiscoveryError Node :=
  (node.registry.register identity handle node.now).map fun change =>
    node.withRegistry change.1 change.2

def unregister (node : Node) (identity : Identity) (handle : Handle) :
    Except DiscoveryError Node :=
  (node.registry.unregister identity handle).map fun change =>
    node.withRegistry change.1 change.2

/-- Registers the services of a configuration. -/
def host (node : Node) (services : List HostedService) :
    Node × Except Hosting.Error (List Identity) :=
  match Hosting.registerAll node.id node.now node.registry node.nextKey services with
  | ⟨registry, notices, nextKey, result⟩ =>
    ({ node.withRegistry registry notices with nextKey := nextKey }, result)

/-! ### Instances on other nodes -/

def withCache (node : Node) (cache : Cache) : Node :=
  { node with resolver := { node.resolver with cache := cache } }

def addRemote (node : Node) (occurrence : Instance) : Node × Bool :=
  match node.cache.add occurrence node.now with
  | (cache, isNew) => (node.withCache cache, isNew)

def removeRemote (node : Node) (occurrence : Instance) : Node × Bool :=
  match node.cache.remove occurrence with
  | (cache, removed) => (node.withCache cache, removed)

def bestExact (node : Node) (name : String) (version : Version) : Option Instance × Node :=
  match node.cache.bestExact name version node.now with
  | (found, cache) => (found, node.withCache cache)

def bestCompatible (node : Node) (name : String) (constraint : Constraint) :
    Option Instance × Node :=
  match node.cache.bestCompatible name constraint node.now with
  | (found, cache) => (found, node.withCache cache)

def clear (node : Node) : Node :=
  node.withCache node.cache.clear

/-! ### The network -/

/-- What a resolution at a node leaves behind. -/
structure Resolution where
  node : Node
  sent : List Envelope
  result : Except DiscoveryError Instance

/-- Resolves a query; the outcome is that of the round, should there have to be one. -/
def resolve (node : Node) (query : Query) (busy : Bool) (outcome : Round.Outcome) : Resolution :=
  match node.resolver.resolve query busy node.now fun _ => ⟨outcome, node.now⟩ with
  | ⟨resolver, sent, result⟩ => ⟨{ node with resolver := resolver }, sent, result⟩

/-- One round with the given outcome. -/
def update (node : Node) (outcome : Round.Outcome) : Node × Except DiscoveryError Bool :=
  match node.resolver.update outcome node.now with
  | (resolver, result) => ({ node with resolver := resolver }, result)

/-! ### Time -/

/-- The node at a later reading of its clock, with everything told that was due by then. -/
def advanceTo (node : Node) (target : Instant) : Node :=
  match node.announcing.advance target with
  | (moments, announcing) =>
    { node with
      now := target
      log := node.log ++ moments.flatMap fun moment => Announcement.all moment node.registry
      announcing := announcing }

def advance (node : Node) (span : Duration) : Node :=
  node.advanceTo (node.now.later span)

/-- Starts to tell everything once in every period. -/
def startAnnouncing (node : Node) (period : Duration) : Node :=
  { node with announcing := .start node.now period }

def stopAnnouncing (node : Node) : Node :=
  { node with announcing := node.announcing.stop }

end Node

end ServiceDiscovery
