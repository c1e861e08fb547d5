/-
This file holds service instances: one occurrence of a service, on this node or on another. A
local instance is known by the handle it was registered with; two handles are the same only if
they have the same key, whatever agent they answer for. A remote instance is known by the agent
that answers for it and the node it runs on.
-/

import ServiceDiscovery.Bytes32
import ServiceDiscovery.Identity
import ServiceDiscovery.Time

namespace ServiceDiscovery

/-- A service running on this node: the key tells handles apart. -/
structure Handle where
  key : Nat
  agent : AgentId
  deriving DecidableEq, Repr

/-- Two handles are one. -/
def Handle.same (first second : Handle) : Bool :=
  first.key == second.key

/-- Where an instance runs. -/
inductive Locality where
  | here (handle : Handle)
  | remote (agent : AgentId) (node : NodeId)
  deriving DecidableEq

namespace Locality

/-- The agent that answers. -/
def agent : Locality → AgentId
  | .here handle => handle.agent
  | .remote agent _ => agent

/-- Both places are the same handle, or the same agent on the same node. -/
def same : Locality → Locality → Bool
  | .here first, .here second => first.same second
  | .remote agent node, .remote otherAgent otherNode => agent == otherAgent && node == otherNode
  | _, _ => false

/-- The place in a form that shows its parts. -/
def describe : Locality → String
  | .here handle => "Local(" ++ Text.quoted handle.agent ++ ")"
  | .remote agent node =>
    "Remote \x7b agent_id: " ++ Text.quoted agent ++ ", node_id: NodeId(" ++ node.short ++ ") \x7d"

end Locality

/-- One occurrence of a service, with what ranks and expires it. -/
structure Instance where
  identity : Identity
  locality : Locality
  lastSeen : Instant
  responseTime : Nat
  deriving DecidableEq

namespace Instance

/-- An instance on this node, seen now. -/
def here (identity : Identity) (handle : Handle) (now : Instant) : Instance :=
  ⟨identity, .here handle, now, 0⟩

/-- An instance on another node, seen now. -/
def remote (identity : Identity) (agent : AgentId) (node : NodeId) (responseTime : Nat)
    (now : Instant) : Instance :=
  ⟨identity, .remote agent node, now, responseTime⟩

def isHere (occurrence : Instance) : Bool :=
  match occurrence.locality with
  | .here _ => true
  | .remote _ _ => false

def handle? (occurrence : Instance) : Option Handle :=
  match occurrence.locality with
  | .here handle => some handle
  | .remote _ _ => none

def hasHandle (occurrence : Instance) (handle : Handle) : Bool :=
  match occurrence.handle? with
  | some own => own.same handle
  | none => false

def agent (occurrence : Instance) : AgentId :=
  occurrence.locality.agent

/-- The node of an instance that runs on another one. -/
def node? (occurrence : Instance) : Option NodeId :=
  match occurrence.locality with
  | .here _ => none
  | .remote _ node => some node

/-- The instances are one: identity, rank and time of the last sight do not matter. -/
def same (first second : Instance) : Bool :=
  first.locality.same second.locality

/-- The instance, seen now. -/
def touch (occurrence : Instance) (now : Instant) : Instance :=
  { occurrence with lastSeen := now }

/-- More time than the lifetime has passed since the instance was last seen. A lifetime that
ends past the end of the clock never ends. -/
def isOutdated (occurrence : Instance) (lifetime : Duration) (now : Instant) : Bool :=
  match occurrence.lastSeen.add? lifetime with
  | some expiry => expiry.before now
  | none => false

/-- Instances in the order of their identities; those of one identity keep their order. -/
def sorted (instances : List Instance) : List Instance :=
  instances.mergeSort fun first second => first.identity.atMost second.identity

def display (occurrence : Instance) : String :=
  occurrence.identity.display ++
    match occurrence.locality with
    | .here handle => " (local, " ++ handle.agent ++ ")"
    | .remote agent node => " (" ++ agent ++ " on " ++ node.short ++ ")"

end Instance

end ServiceDiscovery
