/-
This file proves that asking and answering agree. A node whose cache has nothing fresh for a
query sends its question, each other node answers with what it would itself take for the
request, and the asker ends up with the newest version among the answers, from the first of the
nodes that offered it. Whatever the cache held before cannot get in the way: the lookup before
the round has emptied every version that the query covers.
-/

import ServiceDiscovery.Proofs.Answering
import ServiceDiscovery.Proofs.History

namespace ServiceDiscovery

/-! ### What the other nodes offer -/

/-- If every answer can be read, cutting the answers is cutting what is read. -/
theorem filterMap_take {Node Answer Reading : Type} {answer? : Node → Option Answer}
    {read? : Answer → Option Reading}
    (readable : ∀ node answer, answer? node = some answer → ∃ reading, read? answer = some reading)
    (nodes : List Node) (limit : Nat) :
    ((nodes.filterMap answer?).take limit).filterMap read? =
      (nodes.filterMap fun node => (answer? node).bind read?).take limit := by
  induction nodes generalizing limit with
  | nil => simp
  | cons node others inductionHypothesis =>
    cases answered : answer? node with
    | none =>
      rw [List.filterMap_cons_none answered, inductionHypothesis,
        List.filterMap_cons_none (by rw [answered]; rfl)]
    | some answer =>
      obtain ⟨reading, read⟩ := readable node answer answered
      rw [List.filterMap_cons_some answered,
        List.filterMap_cons_some (b := reading) (by rw [answered]; exact read)]
      cases limit with
      | zero => rfl
      | succ limit =>
        rw [List.take_succ_cons, List.take_succ_cons, List.filterMap_cons_some read,
          inductionHypothesis]

namespace Peer

variable {resolver : Resolver} {query : Query} {question : Bytes}

/-- A node answers the question of another node with an instance that serves the request, if
the answer fits. -/
theorem reply_eq_some_iff (encoded : Wire.encode (resolver.question query) = .ok question)
    {peer : Peer} {reply : Bytes} :
    peer.reply? question = some reply ↔ resolver.node ≠ peer.node ∧ ∃ occurrence,
      peer.registry.serves query.request query.exact = some occurrence ∧
        Wire.encode (Responder.replyFor peer.node (topicFor query.request.name) occurrence) =
          .ok reply := by
  rw [reply?, Responder.reply_of_encode encoded]
  constructor
  · intro replied
    obtain ⟨envelope, answered, written⟩ := Option.bind_eq_some_iff.mp replied
    obtain ⟨apart, inquiry, occurrence, content, _, served, rfl⟩ :=
      Responder.answer_eq_some_iff.mp answered
    cases content
    exact ⟨apart, occurrence, served, Responder.toOption_eq_some_iff.mp written⟩
  · rintro ⟨apart, occurrence, served, sent⟩
    have answered : Responder.answer peer.registry peer.node (resolver.question query) =
        some (Responder.replyFor peer.node (topicFor query.request.name) occurrence) :=
      Responder.answer_eq_some_iff.mpr ⟨apart, ⟨_, _, _⟩, occurrence, rfl, rfl, served, rfl⟩
    rw [answered, Option.bind_some]
    exact Responder.toOption_eq_some_iff.mpr sent

/-- What an answer is read as is the offer that the node makes. -/
theorem offer_of_reply (encoded : Wire.encode (resolver.question query) = .ok question)
    {peer : Peer} {reply : Bytes} (replied : peer.reply? question = some reply) :
    ∃ occurrence, peer.registry.serves query.request query.exact = some occurrence ∧
      Round.offer? reply = some ⟨occurrence.identity, occurrence.agent, peer.node⟩ := by
  obtain ⟨_, occurrence, served, sent⟩ := (reply_eq_some_iff encoded).mp replied
  exact ⟨occurrence, served, Round.offer_of_encode sent rfl⟩

/-- A node that runs what serves the request offers it, if the answer fits. -/
theorem offer_of_serves (encoded : Wire.encode (resolver.question query) = .ok question)
    {peer : Peer} (apart : resolver.node ≠ peer.node) {occurrence : Instance}
    (served : peer.registry.serves query.request query.exact = some occurrence)
    (fits : 8 + (Wire.body (Responder.replyFor peer.node (topicFor query.request.name)
      occurrence)).length ≤ 1200) :
    peer.offer? question query = some ⟨occurrence.identity, occurrence.agent, peer.node⟩ := by
  have sent := (Wire.encode_eq_ok_iff _ _).mpr ⟨fits, rfl⟩
  have replied := (reply_eq_some_iff encoded).mpr ⟨apart, occurrence, served, sent⟩
  rw [offer?, replied, Option.bind_some, served]
  rfl

theorem bind_reply (encoded : Wire.encode (resolver.question query) = .ok question)
    (peer : Peer) :
    (peer.reply? question).bind Round.offer? = peer.offer? question query := by
  unfold offer?
  cases replied : peer.reply? question with
  | none => rfl
  | some reply =>
    obtain ⟨occurrence, served, read⟩ := offer_of_reply encoded replied
    rw [Option.bind_some, Option.bind_some, read, served]
    rfl

/-- What a node offers answers the query. -/
theorem offer_sound {peer : Peer} (wellFormed : peer.registry.WellFormed) {offer : Round.Offer}
    (offered : peer.offer? question query = some offer) :
    Registry.Answers query.request query.exact offer.identity ∧ offer.node = peer.node := by
  obtain ⟨_, _, offered⟩ := Option.bind_eq_some_iff.mp offered
  obtain ⟨occurrence, served, rfl⟩ := Option.map_eq_some_iff.mp offered
  exact ⟨(Registry.serves_sound wellFormed served).1, rfl⟩

/-- A round in which the nodes answer one after the other, up to a number of answers. -/
def exchange (peers : List Peer) (limit : Nat) (ending : Instant) (envelope : Envelope) :
    Resolver.Exchange :=
  match Wire.encode envelope with
  | .error error => ⟨.error (.send error.message), ending⟩
  | .ok question =>
    ⟨Round.Outcome.cut limit (.ok (peers.filterMap (reply? question))), ending⟩

/-- What the nodes that answer offer, up to a number of answers. -/
def offers (question : Bytes) (query : Query) (peers : List Peer) (limit : Nat) :
    List Round.Offer :=
  (peers.filterMap (offer? question query)).take limit

theorem exchange_of_encode {envelope : Envelope} (encoded : Wire.encode envelope = .ok question)
    (peers : List Peer) (limit : Nat) (ending : Instant) :
    exchange peers limit ending envelope =
      ⟨.ok ((peers.filterMap (reply? question)).take limit), ending⟩ := by
  rw [exchange, encoded]
  rfl

/-- The asker reads what the nodes offer. -/
theorem offers_exchange (encoded : Wire.encode (resolver.question query) = .ok question)
    (peers : List Peer) (limit : Nat) (ending : Instant) :
    Round.offers (exchange peers limit ending (resolver.question query)).outcome =
      offers question query peers limit := by
  rw [exchange_of_encode encoded]
  show ((peers.filterMap (reply? question)).take limit).filterMap Round.offer? = _
  rw [filterMap_take]
  · simp only [bind_reply encoded]
    rfl
  · intro peer reply replied
    obtain ⟨occurrence, _, read⟩ := offer_of_reply encoded replied
    exact ⟨_, read⟩

theorem exists_of_mem_offers {peers : List Peer} {limit : Nat} {offer : Round.Offer}
    (member : offer ∈ offers question query peers limit) :
    ∃ peer ∈ peers, peer.offer? question query = some offer :=
  List.mem_filterMap.mp (List.mem_of_mem_take member)

/-- Different nodes make offers from different nodes. -/
theorem offers_distinct {peers : List Peer} (running : ∀ peer ∈ peers, peer.registry.WellFormed)
    (distinct : (peers.map node).Nodup) (question : Bytes) (query : Query) (limit : Nat) :
    (offers question query peers limit).Pairwise fun first second => first.node ≠ second.node := by
  refine List.Pairwise.sublist (List.take_sublist _ _) ?_
  rw [List.pairwise_filterMap]
  refine (List.pairwise_map.mp distinct).imp_of_mem ?_
  intro first second firstMember secondMember apart offer offered other otherOffered
  rw [(offer_sound (running first firstMember) offered).2,
    (offer_sound (running second secondMember) otherOffered).2]
  exact apart

end Peer

/-! ### What the asker ends up with -/

/-- End to end: a node whose cache has nothing fresh for a query resolves it to the newest
version that any of the answering nodes offers, from the first of them that offers it, ranked by
its place among the answers. If none answers, all that is left is a match on the node itself. -/
theorem Moment.resolve_newestOffer {moment : Moment} (reachable : moment.Reachable)
    {peers : List Peer} (running : ∀ peer ∈ peers, peer.registry.Reachable)
    (distinct : (peers.map Peer.node).Nodup) {query : Query} {busy : Bool}
    (addressed : Resolver.isUnaddressed query = false) (outward : query.localOnly = false)
    (wanted : busy = true ∨ moment.resolver.localMatch query = none)
    (missing : (moment.resolver.remoteMatch query moment.now).1 = none) {question : Bytes}
    (encoded : Wire.encode (moment.resolver.question query) = .ok question) (limit : Nat)
    (ending : Instant) :
    (Peer.offers question query peers limit = [] →
      (moment.resolver.resolve query busy moment.now (Peer.exchange peers limit ending)).result =
        Resolver.orNotFound query none (moment.resolver.localMatch query)) ∧
    (Peer.offers question query peers limit ≠ [] →
      ∃ before best after, Peer.offers question query peers limit = before ++ best :: after ∧
        (∀ offer ∈ before, offer.identity.version.compare best.identity.version = .lt) ∧
        (∀ offer ∈ after, offer.identity.version.atMost best.identity.version = true) ∧
        (moment.resolver.resolve query busy moment.now (Peer.exchange peers limit ending)).result =
          .ok (Instance.remote best.identity best.agent best.node (before.length + 1) ending)) := by
  have wellFormed := reachable.wellFormed.resolver
  have received := Peer.offers_exchange encoded peers limit ending
  have ends : moment.resolver.ending query (Peer.exchange peers limit ending) = ending := by
    rw [Resolver.ending, Peer.exchange_of_encode encoded]
  constructor
  · intro none
    rw [none] at received
    rw [Resolver.resolve_of_missing addressed outward wanted missing, Resolver.finish_of_missing
      (Resolver.remoteMatch_asked_of_nil wellFormed missing received),
      Peer.exchange_of_encode encoded, Resolver.snd_update_of_ok, Resolver.causeOf_of_ok]
  · intro some
    have apart := Peer.offers_distinct (fun peer member => (running peer member).wellFormed)
      distinct question query limit
    obtain ⟨before, best, after, split, older, notNewer⟩ := Round.exists_newest some
    rw [split] at received apart
    refine ⟨before, best, after, split, fun offer member =>
      Version.compare_eq_lt_iff.mpr (older offer member), fun offer member =>
      Version.atMost_iff.mpr (notNewer offer member), ?_⟩
    obtain ⟨peer, member, offered⟩ := Peer.exists_of_mem_offers
      (split ▸ List.mem_append_right before List.mem_cons_self)
    have answers := (Peer.offer_sound (running peer member).wellFormed offered).1
    have covered : Resolver.covers query best.identity.version = true := by
      rw [Resolver.covers_iff addressed, ← answers.1]
      exact answers
    rw [Resolver.result_of_newest wellFormed addressed outward wanted missing received apart
      answers.1 covered older notNewer, ends]
    rfl

/-- A node on which one version of a greeting runs. -/
def greeter (node : UInt8) (agent : AgentId) (minor : UInt32) : Peer :=
  ⟨Bytes32.filled node, ⟨[("greeting", [(⟨1, minor, 0⟩,
    Instance.here ⟨"greeting", ⟨1, minor, 0⟩⟩ ⟨0, agent⟩ Instant.zero)])]⟩⟩

theorem running_greeter (node : UInt8) (agent : AgentId) (minor : UInt32) :
    (greeter node agent minor).registry.Reachable :=
  .register .empty (show Registry.empty.register ⟨"greeting", ⟨1, minor, 0⟩⟩ ⟨0, agent⟩
    Instant.zero = .ok (_, _) from rfl)

/-- Three nodes with a greeting, the last two with the newer version. -/
def greeters : List Peer :=
  [greeter 1 "first" 9, greeter 2 "second" 10, greeter 3 "third" 10]

theorem offers_greeters {question : Bytes}
    (encoded : Wire.encode (Moment.asker.resolver.question Moment.anyGreeting) = .ok question) :
    Peer.offers question Moment.anyGreeting greeters 3 =
      [⟨⟨"greeting", ⟨1, 9, 0⟩⟩, "first", Bytes32.filled 1⟩,
        ⟨⟨"greeting", ⟨1, 10, 0⟩⟩, "second", Bytes32.filled 2⟩,
        ⟨⟨"greeting", ⟨1, 10, 0⟩⟩, "third", Bytes32.filled 3⟩] := by
  rw [Peer.offers, greeters,
    List.filterMap_cons_some (Peer.offer_of_serves encoded (by decide) rfl (by
      rw [← Wire.length_body_topic _ (Bytes32.filled 0)]; decide +kernel)),
    List.filterMap_cons_some (Peer.offer_of_serves encoded (by decide) rfl (by
      rw [← Wire.length_body_topic _ (Bytes32.filled 0)]; decide +kernel)),
    List.filterMap_cons_some (Peer.offer_of_serves encoded (by decide) rfl (by
      rw [← Wire.length_body_topic _ (Bytes32.filled 0)]; decide +kernel))]
  rfl

/-- Of the three greeters, the first one with the newer version is found. -/
theorem Moment.resolve_newestOffer_greeters :
    (asker.resolver.resolve anyGreeting false asker.now (Peer.exchange greeters 3 ⟨7⟩)).result =
      .ok (Instance.remote ⟨"greeting", ⟨1, 10, 0⟩⟩ "second" (Bytes32.filled 2) 2 ⟨7⟩) := by
  have reachable : asker.Reachable := .start _ _ (by decide)
  have running : ∀ peer ∈ greeters, peer.registry.Reachable := by
    intro peer member
    simp only [greeters, List.mem_cons, List.not_mem_nil, or_false] at member
    rcases member with rfl | rfl | rfl <;> exact running_greeter _ _ _
  have encoded := (Wire.encode_eq_ok_iff (asker.resolver.question anyGreeting) _).mpr
    ⟨by rw [← Wire.length_body_topic _ (Bytes32.filled 0)]; decide +kernel, rfl⟩
  have offers := offers_greeters encoded
  obtain ⟨before, best, after, split, older, notNewer, result⟩ :=
    (resolve_newestOffer reachable running (by decide) rfl rfl (Or.inr rfl) rfl encoded 3 ⟨7⟩).2
      (by rw [offers]; exact List.cons_ne_nil _ _)
  rw [offers] at split
  rcases before with _ | ⟨first, _ | ⟨second, _ | ⟨third, rest⟩⟩⟩
  · cases split
    exact absurd (notNewer _ List.mem_cons_self) (by decide)
  · cases split
    exact result
  · cases split
    exact absurd (older _ (List.mem_cons_of_mem _ List.mem_cons_self)) (by decide)
  · simp at split

end ServiceDiscovery
