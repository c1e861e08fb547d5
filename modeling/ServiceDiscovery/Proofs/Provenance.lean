/-
This file proves where the instances in the caches of many nodes come from. The nodes register
and unregister, ask, answer and learn from answers in any order, and an answer can be lost, come
twice, come late, come after others or come cut. Whatever a node has cached, another node held
that service for that agent at some earlier moment, and the node had asked for it. The facts that
carry this are about the answers on their way, since the service can be gone when one arrives.
-/

import Mathlib.Logic.Function.Basic
import ServiceDiscovery.Proofs.Agreement
import ServiceDiscovery.Proofs.Lifetimes

namespace ServiceDiscovery

/-! ### What a cache learns -/

/-- The action lets nothing into the cache. -/
def Action.admitsNothing : Action → Bool
  | .add _ | .round _ _ | .resolve _ _ _ _ => false
  | _ => true

theorem Action.isOffline_of_admitsNothing {action : Action}
    (closed : action.admitsNothing = true) : action.isOffline = true := by
  cases action with
  | add _ | round _ _ | resolve _ _ _ _ => cases closed
  | _ => rfl

namespace Moment

variable {moment : Moment}

theorem knows_of_step (wellFormed : moment.WellFormed) {action : Action}
    (closed : action.admitsNothing = true) {identity : Identity} {place : Locality}
    (known : (moment.step action).resolver.cache.Knows identity place) :
    moment.resolver.cache.Knows identity place := by
  obtain ⟨occurrence, member, rfl⟩ := known
  replace member : occurrence ∈ (moment.step action).stored identity := member
  rw [stored_step wellFormed (Action.isOffline_of_admitsNothing closed)] at member
  rcases Action.mem_change.mp member with ⟨existing, stored, _, rfl⟩ | isNew
  · exact ⟨existing, stored, (Action.locality_refresh _ _ _).symm⟩
  · obtain ⟨rfl, _⟩ := Action.mem_news.mp isNew
    cases closed

theorem knows_of_round {outcome : Round.Outcome} {span : Duration} {identity : Identity}
    {place : Locality}
    (known : (moment.step (.round outcome span)).resolver.cache.Knows identity place) :
    moment.resolver.cache.Knows identity place ∨
      ∃ offer ∈ Round.offers outcome, offer.identity = identity ∧
        place = .remote offer.agent offer.node := by
  change (Round.settle moment.resolver.cache (moment.now.after span) outcome).1.Knows identity
    place at known
  exact Round.knows_of_settle known

end Moment

/-! ### Many nodes and what is under way between them -/

/-- A question that a node sent: what it asks for, and its datagram. -/
structure Question (Index : Type) where
  asker : Index
  query : Query
  datagram : Bytes

/-- A datagram that a node sent as the answer to a question. -/
structure Reply (Index : Type) where
  question : Question Index
  datagram : Bytes

/-- Any number of nodes, and all that was ever sent. -/
structure World (Index : Type) where
  nodes : Index → Moment
  questions : List (Question Index)
  replies : List (Reply Index)

namespace World

variable {Index : Type}

def nodeId (world : World Index) (index : Index) : NodeId :=
  (world.nodes index).resolver.node

def registry (world : World Index) (index : Index) : Registry :=
  (world.nodes index).resolver.registry

def cache (world : World Index) (index : Index) : Cache :=
  (world.nodes index).resolver.cache

/-- The node as one that answers. -/
def peer (world : World Index) (index : Index) : Peer :=
  ⟨world.nodeId index, world.registry index⟩

/-- What a node can receive as an answer to a question: an answer that was sent, or the beginning
of one, or what cannot be read. -/
def Delivers (world : World Index) (question : Question Index) (datagram : Bytes) : Prop :=
  (∃ reply ∈ world.replies, reply.question = question ∧ datagram <+: reply.datagram) ∨
    ∃ error, Wire.decode datagram = .error error

/-- No node has anything in its cache, and nothing is under way. -/
structure Starting (world : World Index) : Prop where
  reachable : ∀ index, (world.nodes index).Reachable
  empty : ∀ index, (world.cache index).catalog = []
  unasked : world.questions = []
  unanswered : world.replies = []

/-! ### Where an instance comes from -/

/-- A node can know of an instance: it runs on another node, which held the service for the agent
at an earlier moment, and the node asked for it. -/
structure Traced (past : List (World Index)) (world : World Index) (index : Index)
    (identity : Identity) (agent : AgentId) (node : NodeId) : Prop where
  apart : node ≠ world.nodeId index
  held : ∃ source, world.nodeId source = node ∧ ∃ earlier ∈ past, ∃ handle,
    (earlier.registry source).handleOf identity = .ok handle ∧ handle.agent = agent
  asked : ∃ question ∈ world.questions, question.asker = index ∧
    Registry.Answers question.query.request question.query.exact identity

/-- What a node knows runs in a place on another node, to which it can be traced. -/
def Explains (past : List (World Index)) (world : World Index) (index : Index)
    (identity : Identity) (place : Locality) : Prop :=
  ∃ agent node, place = .remote agent node ∧ Traced past world index identity agent node

/-- What a reply says can be traced by the one who asked. -/
def Vouches (past : List (World Index)) (world : World Index) (reply : Reply Index) : Prop :=
  ∃ node topic occurrence, Wire.encode (Responder.replyFor node topic occurrence) =
    .ok reply.datagram ∧
      Traced past world reply.question.asker occurrence.identity occurrence.agent node

/-- What holds of the nodes and of all that is under way, after the worlds before. -/
structure Sound (past : List (World Index)) (world : World Index) : Prop where
  wellFormed : ∀ index, (world.nodes index).WellFormed
  questions : ∀ question ∈ world.questions,
    Wire.encode ((world.nodes question.asker).resolver.question question.query) =
      .ok question.datagram
  replies : ∀ reply ∈ world.replies, Vouches past world reply
  caches : ∀ index identity place, (world.cache index).Knows identity place →
    Explains past world index identity place

variable {past : List (World Index)} {world : World Index}

theorem Starting.sound (starting : world.Starting) : Sound [] world := by
  refine ⟨fun index => (starting.reachable index).wellFormed, ?_, ?_, ?_⟩
  · rw [starting.unasked]
    exact List.forall_mem_nil _
  · rw [starting.unanswered]
    exact List.forall_mem_nil _
  · rintro index identity place ⟨occurrence, member, _⟩
    replace member : occurrence ∈ (world.nodes index).stored identity := member
    rw [Moment.stored_of_empty (starting.empty index)] at member
    cases member

/-- A reply can be traced from the moment when it is sent. -/
theorem Sound.answered (sound : Sound past world) {index : Index} {question : Question Index}
    (asked : question ∈ world.questions) {datagram : Bytes}
    (replied : (world.peer index).reply? question.datagram = some datagram) :
    Vouches (world :: past) { world with replies := ⟨question, datagram⟩ :: world.replies }
      ⟨question, datagram⟩ := by
  obtain ⟨apart, occurrence, served, written⟩ :=
    (Peer.reply_eq_some_iff (sound.questions question asked)).mp replied
  obtain ⟨answers, here, found⟩ :=
    Registry.serves_sound (sound.wellFormed index).resolver.registry served
  exact ⟨_, _, occurrence, written, Ne.symm apart,
    ⟨index, rfl, world, List.mem_cons_self, Registry.handleOf_of_lookup found here⟩,
    question, asked, rfl, answers⟩

/-- What is read of a delivered datagram can be traced by the one who asked. -/
theorem Sound.delivered (sound : Sound past world) {question : Question Index} {datagram : Bytes}
    (delivered : world.Delivers question datagram) {offer : Round.Offer}
    (read : Round.offer? datagram = some offer) :
    Traced past world question.asker offer.identity offer.agent offer.node := by
  rcases delivered with ⟨reply, sent, rfl, more, written⟩ | ⟨error, unreadable⟩
  · obtain ⟨node, topic, occurrence, encoded, traced⟩ := sound.replies reply sent
    by_cases whole : more = []
    · rw [whole, List.append_nil] at written
      rw [written, Round.offer_of_encode encoded rfl] at read
      cases read
      exact traced
    · -- A cut reply is shorter than its header announces, so nothing is read of it.
      rw [← written] at encoded
      obtain ⟨expected, actual, cut⟩ := Wire.decode_beginning encoded whole
      rw [Round.offer?, cut] at read
      cases read
  · rw [Round.offer?, unreadable] at read
    cases read

/-! ### What can happen -/

variable [DecidableEq Index]

/-- The world in which something happened at a node. -/
def perform (world : World Index) (index : Index) (action : Action) : World Index :=
  { world with nodes := Function.update world.nodes index ((world.nodes index).step action) }

/-- What can happen next: something at one node, a question, an answer of a node to a question,
or the end of a round. Any node can answer any question at any time and as often as it likes,
and a question can have any number of rounds. -/
inductive Step (world : World Index) : World Index → Prop where
  | act (index : Index) {action : Action} (closed : action.admitsNothing = true) :
      Step world (world.perform index action)
  | ask (asker : Index) (query : Query) {datagram : Bytes}
      (encoded : Wire.encode ((world.nodes asker).resolver.question query) = .ok datagram) :
      Step world { world with questions := ⟨asker, query, datagram⟩ :: world.questions }
  | answer (index : Index) {question : Question Index} (asked : question ∈ world.questions)
      {datagram : Bytes} (replied : (world.peer index).reply? question.datagram = some datagram) :
      Step world { world with replies := ⟨question, datagram⟩ :: world.replies }
  | learn {question : Question Index} (asked : question ∈ world.questions) {datagrams : List Bytes}
      (delivered : ∀ datagram ∈ datagrams, world.Delivers question datagram) (span : Duration) :
      Step world (world.perform question.asker (.round (.ok datagrams) span))

/-- A world with the worlds that it went through, the latest first. -/
inductive Run : List (World Index) → World Index → Prop where
  | start {world : World Index} (starting : world.Starting) : Run [] world
  | step {past : List (World Index)} {world next : World Index} (run : Run past world)
      (step : Step world next) : Run (world :: past) next

variable {next : World Index}

theorem nodes_perform_self (world : World Index) (index : Index) (action : Action) :
    (world.perform index action).nodes index = (world.nodes index).step action :=
  Function.update_self _ _ _

theorem nodes_perform_of_ne {changed index : Index} (other : index ≠ changed)
    (world : World Index) (action : Action) :
    (world.perform changed action).nodes index = world.nodes index :=
  Function.update_of_ne other _ _

theorem nodeId_perform (world : World Index) (changed : Index) (action : Action) (index : Index) :
    (world.perform changed action).nodeId index = world.nodeId index := by
  unfold nodeId
  by_cases same : index = changed
  · rw [same, nodes_perform_self, Moment.node_step]
  · rw [nodes_perform_of_ne same]

/-- Nothing that happens takes back a question or gives a node another id. -/
theorem Step.keeps (step : Step world next) :
    (∀ index, next.nodeId index = world.nodeId index) ∧
      ∀ question ∈ world.questions, question ∈ next.questions := by
  cases step with
  | act index _ => exact ⟨nodeId_perform world index _, fun _ member => member⟩
  | learn _ _ _ => exact ⟨nodeId_perform world _ _, fun _ member => member⟩
  | ask _ _ _ => exact ⟨fun _ => rfl, fun _ member => List.mem_cons_of_mem _ member⟩
  | answer _ _ _ => exact ⟨fun _ => rfl, fun _ member => member⟩

theorem Traced.step {index : Index} {identity : Identity} {agent : AgentId} {node : NodeId}
    (traced : Traced past world index identity agent node) (step : Step world next) :
    Traced (world :: past) next index identity agent node := by
  obtain ⟨apart, ⟨source, own, earlier, member, held⟩, question, asked, rest⟩ := traced
  obtain ⟨same, kept⟩ := step.keeps
  refine ⟨?_, ⟨source, ?_, earlier, List.mem_cons_of_mem _ member, held⟩, question,
    kept question asked, rest⟩
  · rwa [same]
  · rwa [same]

theorem Explains.step {index : Index} {identity : Identity} {place : Locality}
    (explained : Explains past world index identity place) (step : Step world next) :
    Explains (world :: past) next index identity place := by
  obtain ⟨agent, node, located, traced⟩ := explained
  exact ⟨agent, node, located, traced.step step⟩

theorem Vouches.step {reply : Reply Index} (vouched : Vouches past world reply)
    (step : Step world next) : Vouches (world :: past) next reply := by
  obtain ⟨node, topic, occurrence, encoded, traced⟩ := vouched
  exact ⟨node, topic, occurrence, encoded, traced.step step⟩

/-- What happens at one node keeps all in order if what it knows then can be traced. -/
theorem Sound.perform (sound : Sound past world) {index : Index} {action : Action}
    (step : Step world (world.perform index action))
    (learned : ∀ identity place,
      ((world.nodes index).step action).resolver.cache.Knows identity place →
        Explains past world index identity place) :
    Sound (world :: past) (world.perform index action) := by
  refine ⟨fun other => ?_, fun question asked => ?_,
    fun reply sent => (sound.replies reply sent).step step,
    fun other identity place known => Explains.step ?_ step⟩
  · by_cases same : other = index
    · rw [same, nodes_perform_self]
      exact Moment.wellFormed_step (sound.wellFormed index) action
    · rw [nodes_perform_of_ne same]
      exact sound.wellFormed other
  · have encoded := sound.questions question asked
    rwa [Resolver.question, ← nodeId, ← nodeId_perform world index action] at encoded
  · rw [cache] at known
    by_cases same : other = index
    · rw [same, nodes_perform_self] at known
      exact same ▸ learned identity place known
    · rw [nodes_perform_of_ne same] at known
      exact sound.caches other identity place known

/-- Whatever happens next keeps all in order. -/
theorem Sound.step (sound : Sound past world) (step : Step world next) :
    Sound (world :: past) next := by
  have sent : ∀ reply ∈ world.replies, Vouches (world :: past) next reply :=
    fun reply member => (sound.replies reply member).step step
  have known : ∀ index identity place, (world.cache index).Knows identity place →
      Explains (world :: past) next index identity place :=
    fun index identity place known => (sound.caches index identity place known).step step
  cases step with
  | act index closed =>
    refine sound.perform (.act index closed) fun identity place learned => ?_
    exact sound.caches index identity place
      (Moment.knows_of_step (sound.wellFormed index) closed learned)
  | learn asked delivered span =>
    refine sound.perform (.learn asked delivered span) fun identity place learned => ?_
    rcases Moment.knows_of_round learned with former | ⟨offer, offered, rfl, located⟩
    · exact sound.caches _ identity place former
    · obtain ⟨datagram, received, read⟩ := List.mem_filterMap.mp offered
      exact ⟨_, _, located, sound.delivered (delivered datagram received) read⟩
  | ask asker query encoded =>
    exact ⟨sound.wellFormed, List.forall_mem_cons.mpr ⟨encoded, sound.questions⟩, sent, known⟩
  | answer index asked replied =>
    exact ⟨sound.wellFormed, sound.questions,
      List.forall_mem_cons.mpr ⟨sound.answered asked replied, sent⟩, known⟩

theorem Run.sound (run : Run past world) : Sound past world := by
  induction run with
  | start starting => exact starting.sound
  | step _ step inductionHypothesis => exact inductionHypothesis.step step

/-- Whatever the nodes did, and whatever became of their questions and answers, an instance in
the cache of a node runs on another node. That node held the service at an earlier moment, under
a handle of the agent, and the first node sent a question for the name, with a constraint that
the version fits, and that pins it if the question was exact. -/
theorem cache_provenance (run : Run past world) (index : Index) {occurrence : Instance}
    (listed : occurrence ∈ (world.cache index).snapshot) :
    ∃ agent node, occurrence.locality = .remote agent node ∧ node ≠ world.nodeId index ∧
      (∃ source, world.nodeId source = node ∧ ∃ earlier ∈ past, ∃ handle,
        (earlier.registry source).handleOf occurrence.identity = .ok handle ∧
          handle.agent = agent) ∧
      ∃ question ∈ world.questions, question.asker = index ∧
        Registry.Answers question.query.request question.query.exact occurrence.identity := by
  have sound := run.sound
  have stored := (Cache.mem_snapshot_iff (sound.wellFormed index).resolver.cache).mp listed
  obtain ⟨agent, node, located, traced⟩ :=
    sound.caches index occurrence.identity occurrence.locality ⟨occurrence, stored, rfl⟩
  exact ⟨agent, node, located, traced.apart, traced.held, traced.asked⟩

/-- Two nodes that know nothing, a service of the second, and its answer to a question. -/
def pair : World Bool :=
  ⟨fun index => ⟨Resolver.empty (Bytes32.filled (if index then 1 else 0)) ⟨5⟩, Instant.zero⟩,
    [], []⟩

def greeting : Identity :=
  ⟨"greeting", ⟨1, 0, 0⟩⟩

def serving : World Bool :=
  pair.perform true (.register greeting ⟨0, "first"⟩)

def greetingReply : Envelope :=
  Responder.replyFor (Bytes32.filled 1) (topicFor "greeting")
    (Instance.here greeting ⟨0, "first"⟩ Instant.zero)

def greetingQuestion (datagram : Bytes) : Question Bool :=
  ⟨false, Moment.anyGreeting, datagram⟩

/-- The service can be gone while its answer is under way. -/
def departed (question reply : Bytes) : World Bool :=
  ⟨(serving.perform true (.unregister greeting ⟨0, "first"⟩)).nodes, [greetingQuestion question],
    [⟨greetingQuestion question, reply⟩]⟩

theorem run_departed {question reply : Bytes}
    (asked : Wire.encode (Moment.asker.resolver.question Moment.anyGreeting) = .ok question)
    (written : Wire.encode greetingReply = .ok reply) :
    ∃ past, Run past (departed question reply) := by
  have starting : pair.Starting := ⟨fun index => .start _ _ (by decide), fun _ => rfl, rfl, rfl⟩
  have registered : Run [pair] serving := (Run.start starting).step (.act true rfl)
  have asking : Run _ ⟨serving.nodes, [greetingQuestion question], []⟩ :=
    registered.step (.ask false Moment.anyGreeting asked)
  have replied : (serving.peer true).reply? question = some reply :=
    (Peer.reply_eq_some_iff asked).mpr ⟨by decide, _, rfl, written⟩
  have answering : Run _ ⟨serving.nodes, [greetingQuestion question],
      [⟨greetingQuestion question, reply⟩]⟩ :=
    asking.step (.answer true (List.mem_singleton_self _) replied)
  exact ⟨_, answering.step (.act true rfl)⟩

/-- The answer arrives twice, after a stray byte. The first node has cached what is gone by then;
the service was there when it was answered. -/
theorem cache_provenance_departed :
    ∃ past world, Run past world ∧ (world.registry true).isEmpty = true ∧
      Instance.remote greeting "first" (Bytes32.filled 1) 1 ⟨7⟩ ∈ (world.cache false).snapshot ∧
      ∃ earlier ∈ past, ∃ handle,
        (earlier.registry true).handleOf greeting = .ok handle ∧ handle.agent = "first" := by
  obtain ⟨question, asked⟩ : ∃ datagram,
      Wire.encode (Moment.asker.resolver.question Moment.anyGreeting) = .ok datagram :=
    ⟨_, (Wire.encode_eq_ok_iff _ _).mpr
      ⟨by rw [← Wire.length_body_topic _ (Bytes32.filled 0)]; decide +kernel, rfl⟩⟩
  obtain ⟨reply, written⟩ : ∃ datagram, Wire.encode greetingReply = .ok datagram :=
    ⟨_, (Wire.encode_eq_ok_iff _ _).mpr
      ⟨by rw [← Wire.length_body_topic _ (Bytes32.filled 0)]; decide +kernel, rfl⟩⟩
  obtain ⟨past, run⟩ := run_departed asked written
  have delivered : ∀ datagram ∈ [[0x43], reply, reply],
      (departed question reply).Delivers (greetingQuestion question) datagram := by
    have whole : (departed question reply).Delivers (greetingQuestion question) reply :=
      Or.inl ⟨_, List.mem_singleton_self _, rfl, List.prefix_rfl⟩
    exact List.forall_mem_cons.mpr ⟨Or.inr ⟨_, rfl⟩, List.forall_mem_cons.mpr
      ⟨whole, List.forall_mem_singleton.mpr whole⟩⟩
  have learning := run.step (.learn (List.mem_singleton_self _) delivered ⟨7⟩)
  have listed : Instance.remote greeting "first" (Bytes32.filled 1) 1 ⟨7⟩ ∈
      (((departed question reply).perform false (.round (.ok [[0x43], reply, reply]) ⟨7⟩)).cache
        false).snapshot := by
    have offered := Round.offer_of_encode written rfl
    show _ ∈ (Round.settle (Cache.empty ⟨5⟩) ⟨7⟩ (.ok [[0x43], reply, reply])).1.snapshot
    rw [Round.fst_settle, Round.offers, List.filterMap_cons_none rfl,
      List.filterMap_cons_some offered, List.filterMap_cons_some offered]
    decide
  refine ⟨_, _, learning, rfl, listed, ?_⟩
  obtain ⟨agent, node, place, _, ⟨source, own, held⟩, _⟩ := cache_provenance learning false listed
  cases place
  cases source with
  | false => exact absurd (show Bytes32.filled 0 = Bytes32.filled 1 from own) (by decide)
  | true => exact held

end World

end ServiceDiscovery
