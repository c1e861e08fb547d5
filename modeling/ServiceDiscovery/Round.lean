/-
This file holds a discovery round: the question that is sent, and what its answers do to the
cache. Answers are ranked by their order of arrival; whatever is no well-formed answer is
skipped and takes no rank.
-/

import ServiceDiscovery.Cache
import ServiceDiscovery.Failure
import ServiceDiscovery.Wire.Frame

namespace ServiceDiscovery.Round

/-- The question for a request, on behalf of an agent of this node. -/
def envelope (node : NodeId) (requester : AgentId) (request : Request) (exact : Bool) : Envelope :=
  ⟨requester, node, topicFor request.name, .request ⟨request.name, request.constraint, exact⟩⟩

/-- What an answer says: an identity, its agent and the agent's node. -/
structure Offer where
  identity : Identity
  agent : AgentId
  node : NodeId
  deriving DecidableEq

/-- The offer in a datagram, if it is a well-formed answer. -/
def offer? (datagram : Bytes) : Option Offer :=
  match Wire.decode datagram with
  | .ok envelope =>
    match envelope.content with
    | .reply identity => some ⟨identity, envelope.sender, envelope.node⟩
    | .request _ => none
  | .error _ => none

/-- The instance of the offer with the given rank. -/
def Offer.ranked (offer : Offer) (rank : Nat) (now : Instant) : Instance :=
  Instance.remote offer.identity offer.agent offer.node rank now

/-- Adds the offers among the datagrams to the cache, after some that have their ranks. The
result counts all of them. -/
def fold (now : Instant) : Cache → Nat → List Bytes → Cache × Nat
  | cache, accepted, [] => (cache, accepted)
  | cache, accepted, datagram :: others =>
    match offer? datagram with
    | some offer =>
      fold now (cache.add (offer.ranked (accepted + 1) now) now).1 (accepted + 1) others
    | none => fold now cache accepted others

/-- What a transport brings back: datagrams, or the reason why there are none. -/
abbrev Outcome := Except TransportError (List Bytes)

/-- The end of a round: the cache with the offers, and whether there were any. -/
def settle (cache : Cache) (now : Instant) : Outcome → Cache × Except DiscoveryError Bool
  | .error error => (cache, .error (.ofTransport error))
  | .ok datagrams =>
    match fold now cache 0 datagrams with
    | (cache, accepted) => (cache, .ok (0 < accepted))

/-- The first datagrams of an outcome, no more than the given number. -/
def Outcome.cut (limit : Nat) : Outcome → Outcome
  | .ok datagrams => .ok (datagrams.take limit)
  | .error error => .error error

end ServiceDiscovery.Round
