/-
This file holds the messages of a discovery round and their JSON form. A message names its
sender, the node it comes from and the topic of the service it is about; the topic is the hash
of the service's name, so that every node derives the same one.
-/

import ServiceDiscovery.Blake3
import ServiceDiscovery.Json.Identity

namespace ServiceDiscovery

/-- What a message is addressed to. -/
abbrev Topic := Bytes32

/-- The topic of the service with the given name. -/
def topicFor (name : String) : Topic :=
  Blake3.hash (Utf8.encode ("cairn.service." ++ name))

/-- The question who runs a service. -/
structure Inquiry where
  name : String
  constraint : Constraint
  exact : Bool
  deriving DecidableEq, Repr

/-- What a message says: a question, or the answer that a node runs a service. -/
inductive Content where
  | request (inquiry : Inquiry)
  | reply (identity : Identity)
  deriving DecidableEq, Repr

/-- The two kinds of message. -/
inductive Kind where
  | request
  | reply
  deriving DecidableEq, Repr

def Kind.display : Kind → String
  | .request => "Request"
  | .reply => "Reply"

def Content.kind : Content → Kind
  | .request _ => .request
  | .reply _ => .reply

/-- A message with its origin. -/
structure Envelope where
  sender : AgentId
  node : NodeId
  topic : Topic
  content : Content
  deriving DecidableEq

/-! ### Questions -/

namespace Inquiry

def request (inquiry : Inquiry) : Request :=
  ⟨inquiry.name, inquiry.constraint⟩

def toJson (inquiry : Inquiry) : Json :=
  Json.ofFields [("service_name", Json.text inquiry.name),
    ("version_constraint", inquiry.constraint.toJson), ("exact", .bool inquiry.exact)]

/-- The fields of a question that were read so far. -/
structure Draft where
  name : Option String := none
  constraint : Option Constraint := none
  exact : Option Bool := none

def member (draft : Draft) (key : String) (value : Json) : Except Json.Fault Draft :=
  match key with
  | "service_name" => do .ok { draft with name := ← Json.fill draft.name Json.asText value }
  | "version_constraint" => do
    .ok { draft with constraint := ← Json.fill draft.constraint Constraint.ofJson value }
  | "exact" => do .ok { draft with exact := ← Json.fill draft.exact Json.asFlag value }
  | _ => Json.skipping draft value

def finish (draft : Draft) : Except Json.Fault Inquiry := do
  .ok ⟨← Json.required draft.name, ← Json.required draft.constraint, ← Json.required draft.exact⟩

def row (items : List Json) : Except Json.Fault Inquiry := do
  let (name, items) ← Json.firstItem Json.asText items
  let (constraint, items) ← Json.firstItem Constraint.ofJson items
  let (exact, items) ← Json.firstItem Json.asFlag items
  Json.noMoreItems items
  .ok ⟨name, constraint, exact⟩

def ofJson : Json → Except Json.Fault Inquiry :=
  Json.asRecord {} member finish row

end Inquiry

/-! ### Answers -/

namespace Answer

def toJson (identity : Identity) : Json :=
  Json.ofFields [("service_name", Json.text identity.name), ("version", identity.version.toJson)]

def member (draft : Identity.Draft) (key : String) (value : Json) :
    Except Json.Fault Identity.Draft :=
  match key with
  | "service_name" => do .ok { draft with name := ← Json.fill draft.name Json.asText value }
  | "version" => do .ok { draft with version := ← Json.fill draft.version Version.ofJson value }
  | _ => Json.skipping draft value

def ofJson : Json → Except Json.Fault Identity :=
  Json.asRecord {} member Identity.finish Identity.row

end Answer

/-! ### Contents: a tag and the data it announces -/

namespace Content

def toJson : Content → Json
  | .request inquiry =>
    Json.ofFields [("type", Json.text "discovery_request"), ("data", inquiry.toJson)]
  | .reply identity =>
    Json.ofFields [("type", Json.text "discovery_reply"), ("data", Answer.toJson identity)]

def kindOfJson (value : Json) : Except Json.Fault Kind := do
  match ← Json.asText value with
  | "discovery_request" => .ok .request
  | "discovery_reply" => .ok .reply
  | _ => .error .mismatched

/-- The data of a message of a known kind. -/
def ofData (value : Json) : Kind → Except Json.Fault Content
  | .request => (Inquiry.ofJson value).map .request
  | .reply => (Answer.ofJson value).map .reply

/-- What was read of a message so far. Data that comes before the tag is held back. -/
structure Draft where
  kind : Option Kind := none
  held : Option Json := none
  content : Option Content := none

/-- The deepest nesting of a document in which values are stored. -/
def depthLimit : Nat := 127

/-- Takes one member. Data that has to be held back has to be storable below the given number
of enclosing values. -/
def member (enclosing : Nat) (draft : Draft) (key : String) (value : Json) :
    Except Json.Fault Draft :=
  match key with
  | "type" =>
    match draft.kind with
    | some _ => .error .mismatched
    | none => do
      let kind ← kindOfJson value
      match draft.held with
      | some data => do .ok { draft with kind := some kind, content := some (← ofData data kind) }
      | none => .ok { draft with kind := some kind }
  | "data" =>
    match draft.held, draft.content, draft.kind with
    | none, none, some kind => do .ok { draft with content := some (← ofData value kind) }
    | none, none, none =>
      if value.isStorable (depthLimit - enclosing) then .ok { draft with held := some value }
      else .error .malformed
    | _, _, _ => .error .mismatched
  | _ => Json.skipping draft value

def finish (draft : Draft) : Except Json.Fault Content :=
  Json.required draft.content

def row (items : List Json) : Except Json.Fault Content := do
  let (kind, items) ← Json.firstItem kindOfJson items
  let (content, items) ← Json.firstItem (ofData · kind) items
  Json.noMoreItems items
  .ok content

/-- A message inside the given number of enclosing values, itself included. -/
def ofJson (enclosing : Nat) : Json → Except Json.Fault Content :=
  Json.asRecord {} (member enclosing) finish row

end Content

/-! ### Envelopes -/

namespace Envelope

def toJson (envelope : Envelope) : Json :=
  Json.ofFields [("sender", Json.text envelope.sender), ("sending_node", envelope.node.toJson),
    ("topic", envelope.topic.toJson), ("content", envelope.content.toJson)]

/-- The fields of an envelope that were read so far. -/
structure Draft where
  sender : Option AgentId := none
  node : Option NodeId := none
  topic : Option Topic := none
  content : Option Content := none

def member (draft : Draft) (key : String) (value : Json) : Except Json.Fault Draft :=
  match key with
  | "sender" => do .ok { draft with sender := ← Json.fill draft.sender Json.asText value }
  | "sending_node" => do .ok { draft with node := ← Json.fill draft.node Bytes32.ofJson value }
  | "topic" => do .ok { draft with topic := ← Json.fill draft.topic Bytes32.ofJson value }
  | "content" => do
    .ok { draft with content := ← Json.fill draft.content (Content.ofJson 2) value }
  | _ => Json.skipping draft value

def finish (draft : Draft) : Except Json.Fault Envelope := do
  .ok ⟨← Json.required draft.sender, ← Json.required draft.node, ← Json.required draft.topic,
    ← Json.required draft.content⟩

def row (items : List Json) : Except Json.Fault Envelope := do
  let (sender, items) ← Json.firstItem Json.asText items
  let (node, items) ← Json.firstItem Bytes32.ofJson items
  let (topic, items) ← Json.firstItem Bytes32.ofJson items
  let (content, items) ← Json.firstItem (Content.ofJson 2) items
  Json.noMoreItems items
  .ok ⟨sender, node, topic, content⟩

def ofJson : Json → Except Json.Fault Envelope :=
  Json.asRecord {} member finish row

end Envelope

end ServiceDiscovery
