/-
This file holds the part of a node that answers questions. A node is silent about its own
questions, about answers, about questions whose topic is not that of the service they name, and
about services that it does not run. An answer goes to where the question came from, and a
failure to receive or to send ends nothing. Every datagram is received into one buffer, over
what was received before.
-/

import ServiceDiscovery.Collecting
import ServiceDiscovery.Registry

namespace ServiceDiscovery.Responder

/-! ### Answers -/

/-- The answer of a node that runs an instance. -/
def replyFor (node : NodeId) (topic : Topic) (occurrence : Instance) : Envelope :=
  ⟨occurrence.agent, node, topic, .reply occurrence.identity⟩

/-- The answer to a question about a topic. -/
def answerInquiry (registry : Registry) (node : NodeId) (topic : Topic) (inquiry : Inquiry) :
    Option Envelope :=
  if topic = topicFor inquiry.name then
    (registry.serves inquiry.request inquiry.exact).map (replyFor node topic)
  else none

/-- The answer that a node owes a message, if any. -/
def answer (registry : Registry) (node : NodeId) (envelope : Envelope) : Option Envelope :=
  if envelope.node = node then none
  else
    match envelope.content with
    | .request inquiry => answerInquiry registry node envelope.topic inquiry
    | .reply _ => none

/-- The datagram that answers a received one. An answer too large for a datagram is not sent. -/
def replyTo? (registry : Registry) (node : NodeId) (datagram : Bytes) : Option Bytes :=
  match Wire.decode datagram with
  | .error _ => none
  | .ok envelope => (answer registry node envelope).bind fun reply => (Wire.encode reply).toOption

/-- The datagram that answers one as far as it is received. -/
def reply? (registry : Registry) (node : NodeId) (bytes : Bytes) : Option Bytes :=
  replyTo? registry node (Collecting.received bytes)

/-! ### The loop -/

/-- Whether a responder runs. Without a socket it never does. -/
inductive State where
  | running
  | stopped
  | failed (fault : SocketFault)
  deriving DecidableEq, Repr

namespace State

/-- The state after the attempt to open a socket. -/
def start : Option SocketFault → State
  | none => .running
  | some fault => .failed fault

def isRunning (state : State) : Bool :=
  match state with
  | .running => true
  | .stopped | .failed _ => false

end State

def failureMessage (fault : SocketFault) : String :=
  "failed to create discovery responder socket: " ++ fault.message

/-- What happens to a responder. -/
inductive Event where
  | datagram (source : Endpoint) (bytes : Bytes)
  | failure
  | shutdown
  deriving DecidableEq, Repr

/-- A datagram and where it is sent to. -/
structure Sending where
  destination : Endpoint
  datagram : Bytes
  deriving DecidableEq, Repr

/-- What a running responder tries to send because of an event. -/
def sendings (registry : Registry) (node : NodeId) : Event → List Sending
  | .datagram source bytes => ((reply? registry node bytes).map fun reply => ⟨source, reply⟩).toList
  | .failure | .shutdown => []

/-- The state after an event, and what was sent because of it. -/
def step (registry : Registry) (node : NodeId) (canSend : Bool) (state : State) (event : Event) :
    State × List Sending :=
  match state, event with
  | .running, .shutdown => (.stopped, [])
  | .running, event => (.running, if canSend then sendings registry node event else [])
  | state, _ => (state, [])

/-! ### The buffer of the loop -/

/-- What a responder receives every datagram into. -/
structure Buffer where
  bytes : Bytes
  size : bytes.length = Wire.maxDatagram

namespace Buffer

/-- The buffer before anything was received. -/
def blank : Buffer :=
  ⟨List.replicate Wire.maxDatagram 0, List.length_replicate⟩

/-- The buffer after a datagram was received over its beginning. What is behind it stays. -/
def overwrite (buffer : Buffer) (bytes : Bytes) : Buffer where
  bytes := Collecting.received bytes ++ buffer.bytes.drop (Collecting.received bytes).length
  size := by
    have short : (Collecting.received bytes).length ≤ Wire.maxDatagram := List.length_take_le _ _
    rw [List.length_append, List.length_drop, buffer.size, Nat.add_sub_cancel' short]

/-- Receives a datagram. It is as much of the buffer's beginning as was received. -/
def receive (buffer : Buffer) (bytes : Bytes) : Buffer × Bytes :=
  (buffer.overwrite bytes,
    (buffer.overwrite bytes).bytes.take (Collecting.received bytes).length)

end Buffer

/-- A responder with its buffer. -/
structure Listener where
  state : State
  buffer : Buffer

/-- The responder after an event, and what was sent because of it. A datagram is read out of the
buffer. -/
def Listener.step (registry : Registry) (node : NodeId) (canSend : Bool) (listener : Listener)
    (event : Event) : Listener × List Sending :=
  match listener.state, event with
  | .running, .datagram source bytes =>
    match listener.buffer.receive bytes with
    | (buffer, datagram) =>
      (⟨.running, buffer⟩,
        if canSend then
          ((replyTo? registry node datagram).map fun reply => ⟨source, reply⟩).toList
        else [])
  | state, event =>
    match Responder.step registry node canSend state event with
    | (state, sent) => (⟨state, listener.buffer⟩, sent)

end ServiceDiscovery.Responder
