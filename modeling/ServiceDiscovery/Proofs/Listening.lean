/-
This file proves what a responder sends while things happen on its node. The buffer of its loop
still holds what earlier datagrams left behind, but only what was just received is read; so all
that is sent is what each event causes on its own, given the registry of that moment. What is sent
is a sound answer, a round accepts it as an offer, and no responder ever answers it.
-/

import ServiceDiscovery.Proofs.LocalLookup
import ServiceDiscovery.Proofs.Round

namespace ServiceDiscovery.Responder

/-! ### The answer to one datagram -/

/-- A datagram is a question of another node, filed under the topic of the service it names, that
a service of this node answers; and this is the answer. -/
def Owes (registry : Registry) (node : NodeId) (datagram reply : Bytes) : Prop :=
  ∃ question inquiry occurrence, Wire.decode datagram = .ok question ∧
    question.node ≠ node ∧ question.content = .request inquiry ∧
    question.topic = topicFor inquiry.name ∧
    registry.serves inquiry.request inquiry.exact = some occurrence ∧
    Wire.encode (replyFor node question.topic occurrence) = .ok reply

theorem replyTo_eq_some_iff {registry : Registry} {node : NodeId} {datagram reply : Bytes} :
    replyTo? registry node datagram = some reply ↔ Owes registry node datagram reply := by
  unfold replyTo? Owes
  cases Wire.decode datagram with
  | error error =>
    exact iff_of_false nofun fun ⟨_, _, _, impossible, _⟩ => nomatch impossible
  | ok question =>
    simp only [Option.bind_eq_some_iff, toOption_eq_some_iff, answer_eq_some_iff]
    constructor
    · rintro ⟨_, ⟨foreign, inquiry, occurrence, content, topical, served, rfl⟩, encoded⟩
      exact ⟨question, inquiry, occurrence, rfl, foreign, content, topical, served, encoded⟩
    · rintro ⟨_, inquiry, occurrence, same, foreign, content, topical, served, encoded⟩
      cases same
      exact ⟨_, ⟨foreign, inquiry, occurrence, content, topical, served, rfl⟩, encoded⟩

/-- A datagram that answers a question soundly: it is small enough, it says that the node runs a
version that the question asks for, which is registered by a handle of the agent it names, and it
is accepted as just this offer. -/
structure IsSoundReply (registry : Registry) (node : NodeId) (inquiry : Inquiry)
    (reply : Bytes) (identity : Identity) (handle : Handle) : Prop where
  fits : reply.length ≤ 1200
  read : Wire.decode reply =
    .ok ⟨handle.agent, node, topicFor identity.name, .reply identity⟩
  answers : Registry.Answers inquiry.request inquiry.exact identity
  registered : registry.handleOf identity = .ok handle
  accepted : Round.offer? reply = some ⟨identity, handle.agent, node⟩

theorem Owes.isSoundReply {registry : Registry} (wellFormed : registry.WellFormed)
    {node : NodeId} {datagram reply : Bytes} (owes : Owes registry node datagram reply) :
    ∃ question inquiry identity handle, Wire.decode datagram = .ok question ∧
      question.content = .request inquiry ∧
      IsSoundReply registry node inquiry reply identity handle := by
  obtain ⟨question, inquiry, occurrence, read, _, content, topical, served, encoded⟩ := owes
  obtain ⟨answers, here, found⟩ := Registry.serves_sound wellFormed served
  obtain ⟨handle, registered, agent⟩ := Registry.handleOf_of_lookup found here
  have topic : topicFor occurrence.identity.name = question.topic := by
    rw [answers.1, topical]
    rfl
  refine ⟨question, inquiry, occurrence.identity, handle, read, content,
    Wire.length_of_encode encoded, ?_, answers, registered, ?_⟩
  · rw [agent, topic]
    exact Wire.decode_of_encode encoded
  · rw [agent]
    exact Round.offer_of_encode encoded rfl

/-- No node answers an answer. -/
theorem reply_of_isSoundReply {registry : Registry} {node : NodeId} {inquiry : Inquiry}
    {reply : Bytes} {identity : Identity} {handle : Handle}
    (sound : IsSoundReply registry node inquiry reply identity handle) (other : Registry)
    (otherNode : NodeId) : reply? other otherNode reply = none := by
  have whole : Collecting.received reply = reply := List.take_of_length_le sound.fits
  rw [reply?, whole, Option.eq_none_iff_forall_ne_some]
  intro _ replied
  obtain ⟨question, _, _, read, _, impossible, _⟩ := replyTo_eq_some_iff.mp replied
  cases sound.read.symm.trans read
  cases impossible

/-! ### The buffer -/

/-- Only what was just received is read. -/
theorem Buffer.receive_snd (buffer : Buffer) (bytes : Bytes) :
    (buffer.receive bytes).2 = Collecting.received bytes :=
  List.take_left

namespace Listener

/-- A responder does the same whatever its buffer holds. -/
theorem step_eq (registry : Registry) (node : NodeId) (canSend : Bool) (listener : Listener)
    (event : Event) :
    ((listener.step registry node canSend event).1.state,
        (listener.step registry node canSend event).2) =
      Responder.step registry node canSend listener.state event := by
  obtain ⟨state, buffer⟩ := listener
  cases state with
  | stopped => rfl
  | failed fault => rfl
  | running =>
    cases event with
    | failure => rfl
    | shutdown => rfl
    | datagram source bytes =>
      have read := buffer.receive_snd bytes
      simp only [step, read, Responder.step, sendings, reply?]

theorem state_eq (registry : Registry) (node : NodeId) (canSend : Bool) (listener : Listener)
    (event : Event) :
    (listener.step registry node canSend event).1.state =
      (Responder.step registry node canSend listener.state event).1 :=
  congrArg Prod.fst (listener.step_eq registry node canSend event)

theorem sent_eq (registry : Registry) (node : NodeId) (canSend : Bool) (listener : Listener)
    (event : Event) :
    (listener.step registry node canSend event).2 =
      (Responder.step registry node canSend listener.state event).2 :=
  congrArg Prod.snd (listener.step_eq registry node canSend event)

/-- Nothing is sent because of a datagram without an answer. -/
theorem sent_of_none {registry : Registry} {node : NodeId} {bytes : Bytes}
    (unanswered : reply? registry node bytes = none) (canSend : Bool) (listener : Listener)
    (source : Endpoint) :
    (listener.step registry node canSend (.datagram source bytes)).2 = [] := by
  obtain ⟨state, buffer⟩ := listener
  rw [sent_eq]
  cases state with
  | stopped => rfl
  | failed fault => rfl
  | running =>
    simp only [Responder.step, sendings, unanswered]
    exact ite_self _

end Listener

/-! ### What happens on a node -/

/-- What can happen on a node while its responder runs. Sending can fail. -/
inductive Happening where
  | datagram (source : Endpoint) (bytes : Bytes) (canSend : Bool)
  | failure
  | register (identity : Identity) (handle : Handle) (now : Instant)
  | unregister (identity : Identity) (handle : Handle)

namespace Happening

/-- The registry after an attempt to change it. -/
def kept (registry : Registry) : Except DiscoveryError (Registry × List Notice) → Registry
  | .ok (changed, _) => changed
  | .error _ => registry

/-- The registry after something happened. -/
def change (registry : Registry) : Happening → Registry
  | .register identity handle now => kept registry (registry.register identity handle now)
  | .unregister identity handle => kept registry (registry.unregister identity handle)
  | .datagram _ _ _ | .failure => registry

/-- A failure to receive, or a datagram that is no message. -/
def IsNoise : Happening → Prop
  | .datagram _ bytes _ => ∃ error, Wire.decode (Collecting.received bytes) = .error error
  | .failure => True
  | .register _ _ _ | .unregister _ _ => False

theorem reachable_change {registry : Registry} (reachable : registry.Reachable)
    (happening : Happening) : (happening.change registry).Reachable := by
  cases happening with
  | datagram source bytes canSend => exact reachable
  | failure => exact reachable
  | register identity handle now =>
    show (kept registry (registry.register identity handle now)).Reachable
    cases done : registry.register identity handle now with
    | error error => exact reachable
    | ok result => exact .register reachable done
  | unregister identity handle =>
    show (kept registry (registry.unregister identity handle)).Reachable
    cases done : registry.unregister identity handle with
    | error error => exact reachable
    | ok result => exact .unregister reachable done

end Happening

namespace Listener

/-- The responder after something happened, and what was sent because of it. -/
def attend (registry : Registry) (node : NodeId) (listener : Listener) :
    Happening → Listener × List Sending
  | .datagram source bytes canSend =>
    listener.step registry node canSend (.datagram source bytes)
  | .failure => listener.step registry node true .failure
  | .register _ _ _ | .unregister _ _ => (listener, [])

/-- What is sent because of each of several happenings, one after the other. -/
def run (node : NodeId) : Registry → Listener → List Happening → List (List Sending)
  | _, _, [] => []
  | registry, listener, happening :: later =>
    (listener.attend registry node happening).2 ::
      run node (happening.change registry) (listener.attend registry node happening).1 later

/-- A responder that runs and has received nothing yet. -/
def fresh : Listener := ⟨.running, .blank⟩

/-- A responder that runs still runs, and sends what it would if it had received nothing yet. -/
theorem attend_of_running {listener : Listener} (running : listener.state = .running)
    (registry : Registry) (node : NodeId) (happening : Happening) :
    (listener.attend registry node happening).1.state = .running ∧
      (listener.attend registry node happening).2 = (fresh.attend registry node happening).2 := by
  cases happening with
  | datagram source bytes canSend =>
    constructor
    · rw [attend, state_eq, running]
      rfl
    · rw [attend, attend, sent_eq, sent_eq, running]
      rfl
  | failure =>
    constructor
    · rw [attend, state_eq, running]
      rfl
    · rw [attend, attend, sent_eq, sent_eq, running]
      rfl
  | register identity handle now => exact ⟨running, rfl⟩
  | unregister identity handle => exact ⟨running, rfl⟩

end Listener

/-! ### Each happening on its own -/

/-- Something that happens, and the registry at that moment. -/
structure Occasion where
  registry : Registry
  happening : Happening

/-- Several happenings, each with the registry of its moment. -/
def occasions : Registry → List Happening → List Occasion
  | _, [] => []
  | registry, happening :: later =>
    ⟨registry, happening⟩ :: occasions (happening.change registry) later

/-- What is sent because of a happening by a responder that has received nothing before it. -/
def Occasion.sent (node : NodeId) (occasion : Occasion) : List Sending :=
  (Listener.fresh.attend occasion.registry node occasion.happening).2

namespace Occasion

theorem sent_datagram (registry : Registry) (node : NodeId) (source : Endpoint) (bytes : Bytes)
    (canSend : Bool) :
    sent node ⟨registry, .datagram source bytes canSend⟩ =
      if canSend then ((reply? registry node bytes).map fun reply => ⟨source, reply⟩).toList
      else [] :=
  Listener.fresh.sent_eq registry node canSend (.datagram source bytes)

theorem length_sent_le (node : NodeId) (occasion : Occasion) :
    (occasion.sent node).length ≤ 1 := by
  obtain ⟨registry, happening⟩ := occasion
  cases happening with
  | register identity handle now => exact Nat.zero_le _
  | unregister identity handle => exact Nat.zero_le _
  | failure => exact Nat.zero_le _
  | datagram source bytes canSend =>
    rw [sent_datagram]
    cases canSend with
    | false => exact Nat.zero_le _
    | true =>
      rw [if_pos rfl]
      cases reply? registry node bytes with
      | none => exact Nat.zero_le _
      | some reply => exact Nat.le_refl _

/-- What is sent is the answer that a datagram is owed, and goes to where the datagram is from. -/
theorem mem_sent_iff {node : NodeId} {occasion : Occasion} {sending : Sending} :
    sending ∈ occasion.sent node ↔ ∃ bytes,
      occasion.happening = .datagram sending.destination bytes true ∧
        Owes occasion.registry node (Collecting.received bytes) sending.datagram := by
  obtain ⟨registry, happening⟩ := occasion
  cases happening with
  | register identity handle now => exact iff_of_false nofun nofun
  | unregister identity handle => exact iff_of_false nofun nofun
  | failure => exact iff_of_false nofun nofun
  | datagram source bytes canSend =>
    rw [sent_datagram]
    cases canSend with
    | false => exact iff_of_false nofun nofun
    | true =>
      rw [if_pos rfl, Option.mem_toList, Option.map_eq_some_iff]
      constructor
      · rintro ⟨reply, replied, rfl⟩
        exact ⟨bytes, rfl, replyTo_eq_some_iff.mp replied⟩
      · rintro ⟨_, same, owes⟩
        cases same
        exact ⟨sending.datagram, replyTo_eq_some_iff.mpr owes, rfl⟩

end Occasion

/-- Because of noise nothing is sent. -/
theorem Happening.IsNoise.sent {noise : Happening} (isNoise : noise.IsNoise) (registry : Registry)
    (node : NodeId) : Occasion.sent node ⟨registry, noise⟩ = [] := by
  refine List.eq_nil_iff_forall_not_mem.mpr fun sending member => ?_
  obtain ⟨bytes, same, _, _, _, read, _⟩ := Occasion.mem_sent_iff.mp member
  cases same
  obtain ⟨error, unread⟩ := isNoise
  exact nomatch unread.symm.trans read

/-- Noise changes nothing. -/
theorem Happening.IsNoise.change {noise : Happening} (isNoise : noise.IsNoise)
    (registry : Registry) : noise.change registry = registry := by
  cases noise with
  | register identity handle now => exact isNoise.elim
  | unregister identity handle => exact isNoise.elim
  | failure => rfl
  | datagram source bytes canSend => rfl

/-! ### Several happenings -/

/-- A responder sends what each happening on its own makes it send. -/
theorem Listener.run_eq {listener : Listener} (running : listener.state = .running)
    (registry : Registry) (node : NodeId) (happenings : List Happening) :
    run node registry listener happenings =
      (occasions registry happenings).map (Occasion.sent node) := by
  induction happenings generalizing registry listener with
  | nil => rfl
  | cons happening later inductionHypothesis =>
    obtain ⟨still, same⟩ := listener.attend_of_running running registry node happening
    rw [run, occasions, List.map_cons, inductionHypothesis still, same]
    rfl

theorem length_occasions (registry : Registry) (happenings : List Happening) :
    (occasions registry happenings).length = happenings.length := by
  induction happenings generalizing registry with
  | nil => rfl
  | cons happening later inductionHypothesis =>
    rw [occasions, List.length_cons, List.length_cons, inductionHypothesis]

theorem occasions_append (registry : Registry) (before later : List Happening) :
    occasions registry (before ++ later) =
      occasions registry before ++ occasions (before.foldl Happening.change registry) later := by
  induction before generalizing registry with
  | nil => rfl
  | cons happening before inductionHypothesis =>
    rw [List.cons_append, occasions, inductionHypothesis]
    rfl

theorem reachable_of_mem_occasions {registry : Registry} (reachable : registry.Reachable)
    {happenings : List Happening} {occasion : Occasion}
    (member : occasion ∈ occasions registry happenings) : occasion.registry.Reachable := by
  induction happenings generalizing registry with
  | nil => cases member
  | cons happening later inductionHypothesis =>
    rcases List.mem_cons.mp member with rfl | member
    · exact reachable
    · exact inductionHypothesis (happening.reachable_change reachable) member

/-- Noise only adds that nothing is sent because of it. -/
theorem Listener.run_noise {listener : Listener} (running : listener.state = .running)
    {noise : Happening} (isNoise : noise.IsNoise) (registry : Registry) (node : NodeId)
    (before later : List Happening) :
    ∃ earlierSent laterSent, earlierSent.length = before.length ∧
      run node registry listener (before ++ noise :: later) = earlierSent ++ [] :: laterSent ∧
      run node registry listener (before ++ later) = earlierSent ++ laterSent := by
  refine ⟨(occasions registry before).map (Occasion.sent node),
    (occasions (before.foldl Happening.change registry) later).map (Occasion.sent node),
    (List.length_map _).trans (length_occasions registry before), ?_, ?_⟩
  · rw [run_eq running, occasions_append, List.map_append, occasions, List.map_cons,
      isNoise.sent, isNoise.change]
  · rw [run_eq running, occasions_append, List.map_append]

/-- What a responder sends while datagrams and failures come and services are registered and
unregistered in any order, whatever its buffer holds. It sends what each happening makes it send
on its own, given the registry of that moment, and what cannot be received or read changes nothing
else. Because of one happening it sends at most one datagram, only if that is a datagram, and only
to its source; it does so exactly if it owes an answer and can send. The answer is sound: it is at
most 1200 bytes long, it is read as an answer of this node about the topic of the service that it
names, in a version that fits the question, the pinned one if the question is exact, which is
registered at that moment by a handle of the agent it names; and a round accepts it. No responder,
whatever runs on its node, sends anything because of it. -/
theorem replies_sound {registry : Registry} (reachable : registry.Reachable) (node : NodeId)
    (buffer : Buffer) (happenings : List Happening) :
    Listener.run node registry ⟨.running, buffer⟩ happenings =
      (occasions registry happenings).map (Occasion.sent node) ∧
    (∀ before noise later, happenings = before ++ noise :: later → noise.IsNoise →
      ∃ earlierSent laterSent, earlierSent.length = before.length ∧
        Listener.run node registry ⟨.running, buffer⟩ happenings =
          earlierSent ++ [] :: laterSent ∧
        Listener.run node registry ⟨.running, buffer⟩ (before ++ later) =
          earlierSent ++ laterSent) ∧
    ∀ occasion ∈ occasions registry happenings, (occasion.sent node).length ≤ 1 ∧
      ∀ sending, (sending ∈ occasion.sent node ↔ ∃ bytes,
          occasion.happening = .datagram sending.destination bytes true ∧
            Owes occasion.registry node (bytes.take 1200) sending.datagram) ∧
        (sending ∈ occasion.sent node → ∃ bytes question inquiry identity handle,
          occasion.happening = .datagram sending.destination bytes true ∧
          Wire.decode (bytes.take 1200) = .ok question ∧ question.content = .request inquiry ∧
          IsSoundReply occasion.registry node inquiry sending.datagram identity handle ∧
          ∀ (other : Registry) (otherNode : NodeId) (listener : Listener) (canSend : Bool)
              (source : Endpoint),
            (listener.step other otherNode canSend (.datagram source sending.datagram)).2 =
              []) := by
  refine ⟨Listener.run_eq rfl registry node happenings, ?_, fun occasion member =>
    ⟨occasion.length_sent_le node, fun sending => ⟨Occasion.mem_sent_iff, fun sent => ?_⟩⟩⟩
  · rintro before noise later rfl isNoise
    exact Listener.run_noise rfl isNoise registry node before later
  · have wellFormed := (reachable_of_mem_occasions reachable member).wellFormed
    obtain ⟨bytes, same, owes⟩ := Occasion.mem_sent_iff.mp sent
    obtain ⟨question, inquiry, identity, handle, read, content, sound⟩ :=
      owes.isSoundReply wellFormed
    refine ⟨bytes, question, inquiry, identity, handle, same, read, content, sound, ?_⟩
    intro other otherNode listener canSend source
    have unanswered := reply_of_isSoundReply sound other otherNode
    exact Listener.sent_of_none unanswered canSend listener source

/-- A node on which the greeting runs is asked for it between a failure to receive and the end of a
version. It answers, and its answer is answered by nobody. -/
theorem replies_sound_releasing :
    (Resolver.releasing [2, 9, 10]).registry.Reachable ∧ ∃ question reply,
      Wire.encode (Round.envelope (Bytes32.filled 1) "asker" ⟨"greeting", .caret ⟨1, 9, 0⟩⟩ false) =
        .ok question ∧
      Listener.run (Bytes32.filled 7) (Resolver.releasing [2, 9, 10]).registry Listener.fresh
        [.failure, .datagram ⟨"fe80::1", 2, 40000⟩ question true,
          .unregister ⟨"greeting", ⟨1, 10, 0⟩⟩ ⟨10, "greeter"⟩] =
        [[], [⟨⟨"fe80::1", 2, 40000⟩, reply⟩], []] ∧
      reply.length ≤ 1200 ∧
      (Listener.fresh.step Registry.empty (Bytes32.filled 1) true
        (.datagram ⟨"fe80::7", 2, 9100⟩ reply)).2 = [] := by
  obtain ⟨question, asked⟩ : ∃ question, Wire.encode (Round.envelope (Bytes32.filled 1) "asker"
      ⟨"greeting", .caret ⟨1, 9, 0⟩⟩ false) = .ok question :=
    ⟨_, (Wire.encode_eq_ok_iff _ _).mpr
      ⟨by rw [← Wire.length_body_topic _ (Bytes32.filled 0)]; decide +kernel, rfl⟩⟩
  obtain ⟨reply, answered⟩ : ∃ reply, Wire.encode (replyFor (Bytes32.filled 7)
      (topicFor "greeting") (Resolver.release 10)) = .ok reply :=
    ⟨_, (Wire.encode_eq_ok_iff _ _).mpr
      ⟨by rw [← Wire.length_body_topic _ (Bytes32.filled 0)]; decide +kernel, rfl⟩⟩
  have replied : reply? (Resolver.releasing [2, 9, 10]).registry (Bytes32.filled 7) question =
      some reply := by
    rw [reply_of_encode asked, Option.bind_eq_some_iff]
    exact ⟨_, answer_eq_some_iff.mpr ⟨by decide, _, Resolver.release 10, rfl, rfl, rfl, rfl⟩,
      toOption_eq_some_iff.mpr answered⟩
  have sent : Occasion.sent (Bytes32.filled 7) ⟨(Resolver.releasing [2, 9, 10]).registry,
      .datagram ⟨"fe80::1", 2, 40000⟩ question true⟩ = [⟨⟨"fe80::1", 2, 40000⟩, reply⟩] := by
    rw [Occasion.sent_datagram, replied]
    rfl
  obtain ⟨run, _, sound⟩ := replies_sound Resolver.reachable_releasing (Bytes32.filled 7)
    Buffer.blank [.failure, .datagram ⟨"fe80::1", 2, 40000⟩ question true,
      .unregister ⟨"greeting", ⟨1, 10, 0⟩⟩ ⟨10, "greeter"⟩]
  obtain ⟨_, _, _, _, _, _, _, _, answer, unanswered⟩ :=
    ((sound _ (.tail _ (.head _))).2 ⟨⟨"fe80::1", 2, 40000⟩, reply⟩).2
      (sent ▸ List.mem_singleton_self _)
  refine ⟨Resolver.reachable_releasing, question, reply, asked, run.trans ?_, answer.fits,
    unanswered _ _ _ _ _⟩
  exact congrArg (fun sent => [[], sent, []]) sent

end ServiceDiscovery.Responder
