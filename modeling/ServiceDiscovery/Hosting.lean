/-
This file holds the services that a node hosts by its configuration. Each is answered for by an
agent whose id is derived from the node and the service, so that it stays the same from one
start to the next. The services are registered in order, up to the first that is refused.
-/

import ServiceDiscovery.Blake3
import ServiceDiscovery.Json.Identity
import ServiceDiscovery.Registry

namespace ServiceDiscovery

/-- A service as the configuration names it; the version is not looked at yet. -/
structure HostedService where
  name : String
  version : String
  deriving DecidableEq, Repr

namespace HostedService

def toJson (service : HostedService) : Json :=
  Json.ofFields [("name", Json.text service.name), ("version", Json.text service.version)]

/-- The fields of a hosted service that were read so far. -/
structure Draft where
  name : Option String := none
  version : Option String := none

def member (draft : Draft) (key : String) (value : Json) : Except Json.Fault Draft :=
  match key with
  | "name" => do .ok { draft with name := ← Json.fill draft.name Json.asText value }
  | "version" => do .ok { draft with version := ← Json.fill draft.version Json.asText value }
  | _ => Json.skipping draft value

def finish (draft : Draft) : Except Json.Fault HostedService := do
  .ok ⟨← Json.required draft.name, ← Json.required draft.version⟩

def row (items : List Json) : Except Json.Fault HostedService := do
  let (name, items) ← Json.firstItem Json.asText items
  let (version, items) ← Json.firstItem Json.asText items
  Json.noMoreItems items
  .ok ⟨name, version⟩

def ofJson : Json → Except Json.Fault HostedService :=
  Json.asRecord {} member finish row

end HostedService

namespace Hosting

/-- What the agent id of a hosted service is the hash of. -/
def agentInput (node : NodeId) (identity : Identity) : Bytes :=
  node.bytes ++ Utf8.encode identity.name ++ Utf8.encode identity.version.display

/-- The agent that answers for a hosted service: half of the hash. -/
def agentFor (node : NodeId) (identity : Identity) : AgentId :=
  Hex.encode ((Blake3.hash (agentInput node identity)).bytes.take 16)

/-- Why a hosted service is not registered. -/
inductive Error where
  | invalidVersion (name : String) (error : VersionError)
  | refused (identity : Identity) (error : DiscoveryError)

def Error.message : Error → String
  | .invalidVersion name error =>
    "invalid version for service '" ++ name ++ "': " ++ error.message
  | .refused identity error =>
    "failed to register " ++ identity.display ++ ": " ++ error.message

/-- What the registration of several services leaves behind. -/
structure Outcome where
  registry : Registry
  notices : List Notice
  nextKey : Nat
  result : Except Error (List Identity)

/-- The outcome with an identity registered before it. -/
def Outcome.after (identity : Identity) (notices : List Notice) (outcome : Outcome) : Outcome :=
  { outcome with
    notices := notices ++ outcome.notices
    result := outcome.result.map (identity :: ·) }

/-- Registers services in order, each under a handle of its own with the next free key. -/
def registerAll (node : NodeId) (now : Instant) :
    Registry → Nat → List HostedService → Outcome
  | registry, nextKey, [] => ⟨registry, [], nextKey, .ok []⟩
  | registry, nextKey, service :: others =>
    match Identity.parse service.name service.version with
    | .error error => ⟨registry, [], nextKey, .error (.invalidVersion service.name error)⟩
    | .ok identity =>
      match registry.register identity ⟨nextKey, agentFor node identity⟩ now with
      | .error error => ⟨registry, [], nextKey + 1, .error (.refused identity error)⟩
      | .ok (registry, notices) =>
        (registerAll node now registry (nextKey + 1) others).after identity notices

end Hosting

end ServiceDiscovery
