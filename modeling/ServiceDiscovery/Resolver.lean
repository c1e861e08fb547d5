/-
This file turns a request into one instance. An instance on this node wins unless the node is
busy. Without one, or on a busy node, the cache is asked, and if it has nothing fresh, the
network is asked once and then the cache again. A request can be addressed exactly, to the one
version that its constraint pins, and it can be kept from the cache and the network.
-/

import ServiceDiscovery.Registry
import ServiceDiscovery.Round

namespace ServiceDiscovery

/-- A request with the way it is to be answered. -/
structure Query where
  request : Request
  exact : Bool
  localOnly : Bool
  requester : AgentId
  deriving DecidableEq, Repr

/-- The services of a node, and what it knows of others. -/
structure Resolver where
  node : NodeId
  registry : Registry
  cache : Cache

namespace Resolver

def empty (node : NodeId) (lifetime : Duration) : Resolver :=
  ⟨node, Registry.empty, Cache.empty lifetime⟩

/-- The version that the query is addressed to, if it is exact. -/
def pinned? (query : Query) : Option Version :=
  if query.exact then query.request.constraint.pinned? else none

/-- The query is exact, and its constraint names no version. -/
def isUnaddressed (query : Query) : Bool :=
  query.exact && query.request.constraint.pinned?.isNone

/-- The instance on this node that matches. -/
def localMatch (resolver : Resolver) (query : Query) : Option Instance :=
  match pinned? query with
  | some version => resolver.registry.lookupExact query.request.name version
  | none => resolver.registry.lookupCompatible query.request.name query.request.constraint

/-- The best cached instance that matches, and the resolver after the lookup. -/
def remoteMatch (resolver : Resolver) (query : Query) (now : Instant) :
    Option Instance × Resolver :=
  match pinned? query with
  | some version =>
    match resolver.cache.bestExact query.request.name version now with
    | (found, cache) => (found, { resolver with cache := cache })
  | none =>
    match resolver.cache.bestCompatible query.request.name query.request.constraint now with
    | (found, cache) => (found, { resolver with cache := cache })

def notFound (query : Query) (cause : Option DiscoveryError) : Except DiscoveryError Instance :=
  .error (.notFound query.request cause)

/-- The instance, or the complaint that there is none. -/
def orNotFound (query : Query) (cause : Option DiscoveryError) :
    Option Instance → Except DiscoveryError Instance
  | some occurrence => .ok occurrence
  | none => notFound query cause

/-! ### The two halves of a resolution -/

/-- A query that waits for the network, with the match on this node. -/
structure Waiting where
  query : Query
  localMatch : Option Instance

/-- How far a query gets without the network. -/
inductive Progress where
  | settled (result : Except DiscoveryError Instance)
  | asking (envelope : Envelope) (waiting : Waiting)

/-- The first half: everything up to the question to the network, if there has to be one. -/
def start (resolver : Resolver) (query : Query) (busy : Bool) (now : Instant) :
    Resolver × Progress :=
  if isUnaddressed query then (resolver, .settled (notFound query none))
  else if query.localOnly then
    (resolver, .settled (orNotFound query none (resolver.localMatch query)))
  else
    match resolver.localMatch query, busy with
    | some occurrence, false => (resolver, .settled (.ok occurrence))
    | localMatch, _ =>
      match resolver.remoteMatch query now with
      | (some occurrence, resolver) => (resolver, .settled (.ok occurrence))
      | (none, resolver) =>
        (resolver, .asking (Round.envelope resolver.node query.requester query.request query.exact)
          ⟨query, localMatch⟩)

/-- The cause to report: a failed round matters only if nothing on this node matches. -/
def causeOf (localMatch : Option Instance) (round : Except DiscoveryError Bool) :
    Option DiscoveryError :=
  match localMatch, round with
  | none, .error error => some error
  | _, _ => none

/-- The second half: what comes back from the network goes into the cache, and the cache is
asked again. -/
def finish (resolver : Resolver) (waiting : Waiting) (outcome : Round.Outcome) (now : Instant) :
    Resolver × Except DiscoveryError Instance :=
  match Round.settle resolver.cache now outcome with
  | (cache, round) =>
    match ({ resolver with cache := cache } : Resolver).remoteMatch waiting.query now with
    | (some occurrence, resolver) => (resolver, .ok occurrence)
    | (none, resolver) =>
      (resolver, orNotFound waiting.query (causeOf waiting.localMatch round) waiting.localMatch)

/-- A round as seen from here: its outcome and the moment at which it is over. -/
structure Exchange where
  outcome : Round.Outcome
  ending : Instant

/-- What a resolution leaves behind. -/
structure Resolution where
  resolver : Resolver
  sent : List Envelope
  result : Except DiscoveryError Instance

/-- The whole resolution over a transport that answers a question with an exchange. -/
def resolve (resolver : Resolver) (query : Query) (busy : Bool) (now : Instant)
    (exchange : Envelope → Exchange) : Resolution :=
  match resolver.start query busy now with
  | (resolver, .settled result) => ⟨resolver, [], result⟩
  | (resolver, .asking envelope waiting) =>
    match resolver.finish waiting (exchange envelope).outcome (exchange envelope).ending with
    | (resolver, result) => ⟨resolver, [envelope], result⟩

/-- One round for a request, whatever is known already. -/
def update (resolver : Resolver) (outcome : Round.Outcome) (now : Instant) :
    Resolver × Except DiscoveryError Bool :=
  match Round.settle resolver.cache now outcome with
  | (cache, result) => ({ resolver with cache := cache }, result)

end Resolver

end ServiceDiscovery
