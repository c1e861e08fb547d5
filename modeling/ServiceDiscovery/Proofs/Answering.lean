/-
This file proves what a node that answers questions says. It answers only a question of another
node that is filed under the topic of the service it names, and only with an instance that
serves the request; whoever reads the answer finds the instance's identity, its agent and the
node in it.
-/

import ServiceDiscovery.Proofs.Frame
import ServiceDiscovery.Proofs.Registry
import ServiceDiscovery.Resolver
import ServiceDiscovery.Responder

namespace ServiceDiscovery

/-! ### Answers and their datagrams -/

namespace Responder

theorem answer_eq_some_iff {registry : Registry} {node : NodeId} {envelope reply : Envelope} :
    answer registry node envelope = some reply ↔
      envelope.node ≠ node ∧ ∃ inquiry occurrence, envelope.content = .request inquiry ∧
        envelope.topic = topicFor inquiry.name ∧
        registry.serves inquiry.request inquiry.exact = some occurrence ∧
        reply = replyFor node envelope.topic occurrence := by
  unfold answer
  by_cases own : envelope.node = node
  · rw [if_pos own]
    exact iff_of_false (fun impossible => nomatch impossible)
      fun answered => answered.1 own
  · rw [if_neg own]
    cases content : envelope.content with
    | reply identity =>
      refine iff_of_false (fun impossible => nomatch impossible) ?_
      rintro ⟨_, inquiry, occurrence, impossible, _⟩
      cases impossible
    | request inquiry =>
      show answerInquiry registry node envelope.topic inquiry = some reply ↔ _
      unfold answerInquiry
      constructor
      · intro answered
        split at answered
        · rename_i topical
          obtain ⟨occurrence, served, rfl⟩ := Option.map_eq_some_iff.mp answered
          exact ⟨own, inquiry, occurrence, rfl, topical, served, rfl⟩
        · cases answered
      · rintro ⟨_, other, occurrence, same, topical, served, rfl⟩
        cases same
        rw [if_pos topical, served]
        rfl

theorem toOption_eq_some_iff {Fault Result : Type} {attempt : Except Fault Result}
    {result : Result} : attempt.toOption = some result ↔ attempt = .ok result := by
  cases attempt with
  | error fault =>
    constructor
    · intro impossible
      cases impossible
    · intro impossible
      cases impossible
  | ok other =>
    constructor
    · intro same
      cases same
      rfl
    · intro same
      cases same
      rfl

/-- An encoded envelope is received whole. -/
theorem received_of_encode {envelope : Envelope} {datagram : Bytes}
    (encoded : Wire.encode envelope = .ok datagram) : Collecting.received datagram = datagram :=
  List.take_of_length_le (Wire.length_of_encode encoded)

/-- A node that receives an encoded question answers the question. -/
theorem reply_of_encode {envelope : Envelope} {question : Bytes}
    (encoded : Wire.encode envelope = .ok question) (registry : Registry) (node : NodeId) :
    reply? registry node question =
      (answer registry node envelope).bind fun reply => (Wire.encode reply).toOption := by
  rw [reply?, received_of_encode encoded, replyTo?, Wire.decode_of_encode encoded]

end Responder

/-! ### The other nodes -/

/-- Another node that answers questions, with what runs on it. -/
structure Peer where
  node : NodeId
  registry : Registry

namespace Peer

/-- The datagram with which the node answers a question, if it does. -/
def reply? (question : Bytes) (peer : Peer) : Option Bytes :=
  Responder.reply? peer.registry peer.node question

/-- What the node offers for a query if it answers the question. -/
def offer? (question : Bytes) (query : Query) (peer : Peer) : Option Round.Offer :=
  (peer.reply? question).bind fun _ =>
    (peer.registry.serves query.request query.exact).map fun occurrence =>
      ⟨occurrence.identity, occurrence.agent, peer.node⟩

end Peer

end ServiceDiscovery
