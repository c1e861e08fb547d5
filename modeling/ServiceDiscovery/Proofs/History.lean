/-
This file proves what holds at every moment in the life of a node. A life is any sequence of
registrations, changes and lookups in the cache, waits, rounds and resolutions; a round takes
any span of time and brings anything. Whatever happened, registry and cache are well-formed, so
a resolution answers the query, with an instance that is registered on this node or with one
that is cached and not outdated.
-/

import ServiceDiscovery.Proofs.Resolution

namespace ServiceDiscovery

/-! ### Time that passes -/

namespace Instant

/-- The reading of the clock after a span. The clock stops at its last instant. -/
def after (moment : Instant) (span : Duration) : Instant :=
  (moment.add? span).getD last

theorem after_reached (moment : Instant) (span : Duration) :
    (moment.after span).nanoseconds ≤ last.nanoseconds := by
  unfold after add? reached?
  split
  · rename_i reached
    exact reached
  · exact Nat.le_refl _

theorem le_after {moment : Instant} (reached : moment.nanoseconds ≤ last.nanoseconds)
    (span : Duration) : moment.nanoseconds ≤ (moment.after span).nanoseconds := by
  unfold after add? reached?
  split
  · exact Nat.le_add_right _ _
  · exact reached

end Instant

/-! ### What can happen at a node -/

/-- A resolver and the reading of its node's clock. -/
structure Moment where
  resolver : Resolver
  now : Instant

/-- What can happen at a node. The outcome of a resolution is that of its round, should there
be one. -/
inductive Action where
  | register (identity : Identity) (handle : Handle)
  | unregister (identity : Identity) (handle : Handle)
  | add (occurrence : Instance)
  | remove (occurrence : Instance)
  | clear
  | lookupExact (name : String) (version : Version)
  | lookupCompatible (name : String) (constraint : Constraint)
  | wait (span : Duration)
  | round (outcome : Round.Outcome) (span : Duration)
  | resolve (query : Query) (busy : Bool) (outcome : Round.Outcome) (span : Duration)

namespace Moment

/-- The moment with what a change of the registry leaves; a refused change leaves everything. -/
def withRegistry (moment : Moment) :
    Except DiscoveryError (Registry × List Notice) → Moment
  | .ok (registry, _) => { moment with resolver := { moment.resolver with registry := registry } }
  | .error _ => moment

def withCache (moment : Moment) (cache : Cache) : Moment :=
  { moment with resolver := { moment.resolver with cache := cache } }

/-- A resolution whose round, should there be one, takes a span and has an outcome. -/
def resolution (moment : Moment) (query : Query) (busy : Bool) (outcome : Round.Outcome)
    (span : Duration) : Resolver.Resolution :=
  moment.resolver.resolve query busy moment.now fun _ => ⟨outcome, moment.now.after span⟩

/-- The moment at which a resolution is over: time passes only if the network was asked. -/
def afterResolution (moment : Moment) (query : Query) (busy : Bool) (outcome : Round.Outcome)
    (span : Duration) : Moment :=
  ⟨(moment.resolution query busy outcome span).resolver,
    if (moment.resolution query busy outcome span).sent.isEmpty then moment.now
    else moment.now.after span⟩

/-- The moment after something happened. -/
def step (moment : Moment) : Action → Moment
  | .register identity handle =>
    moment.withRegistry (moment.resolver.registry.register identity handle moment.now)
  | .unregister identity handle =>
    moment.withRegistry (moment.resolver.registry.unregister identity handle)
  | .add occurrence => moment.withCache (moment.resolver.cache.add occurrence moment.now).1
  | .remove occurrence => moment.withCache (moment.resolver.cache.remove occurrence).1
  | .clear => moment.withCache moment.resolver.cache.clear
  | .lookupExact name version =>
    moment.withCache (moment.resolver.cache.bestExact name version moment.now).2
  | .lookupCompatible name constraint =>
    moment.withCache (moment.resolver.cache.bestCompatible name constraint moment.now).2
  | .wait span => { moment with now := moment.now.after span }
  | .round outcome span =>
    ⟨(moment.resolver.update outcome (moment.now.after span)).1, moment.now.after span⟩
  | .resolve query busy outcome span => moment.afterResolution query busy outcome span

/-- The moments in the lives of nodes that start with nothing at any reading of the clock. -/
inductive Reachable : Moment → Prop where
  | start (node : NodeId) (lifetime : Duration) {now : Instant}
      (reached : now.nanoseconds ≤ Instant.last.nanoseconds) :
      Reachable ⟨Resolver.empty node lifetime, now⟩
  | step {moment : Moment} (reachable : Reachable moment) (action : Action) :
      Reachable (moment.step action)

/-! ### What holds at every moment -/

/-- The resolver is well-formed, and the clock shows a time that it can show. -/
structure WellFormed (moment : Moment) : Prop where
  resolver : moment.resolver.WellFormed
  reached : moment.now.nanoseconds ≤ Instant.last.nanoseconds

variable {moment : Moment}

theorem WellFormed.withRegistry (wellFormed : moment.WellFormed)
    {change : Except DiscoveryError (Registry × List Notice)}
    (kept : ∀ registry notices, change = .ok (registry, notices) → registry.WellFormed) :
    (moment.withRegistry change).WellFormed := by
  cases change with
  | error error => exact wellFormed
  | ok result =>
    exact ⟨⟨kept result.1 result.2 rfl, wellFormed.resolver.cache⟩, wellFormed.reached⟩

theorem cache_withRegistry (moment : Moment)
    (change : Except DiscoveryError (Registry × List Notice)) :
    (moment.withRegistry change).resolver.cache = moment.resolver.cache := by
  cases change <;> rfl

theorem WellFormed.withCache (wellFormed : moment.WellFormed) {cache : Cache}
    (kept : cache.WellFormed) : (moment.withCache cache).WellFormed :=
  ⟨⟨wellFormed.resolver.registry, kept⟩, wellFormed.reached⟩

/-- How a resolution goes at a moment. -/
theorem resolution_course (moment : Moment) (query : Query) (busy : Bool)
    (outcome : Round.Outcome) (span : Duration) :
    Resolver.Course moment.resolver query busy moment.now
      (fun _ => ⟨outcome, moment.now.after span⟩) (moment.resolution query busy outcome span) :=
  Resolver.resolve_course

theorem wellFormed_step (wellFormed : moment.WellFormed) (action : Action) :
    (moment.step action).WellFormed := by
  have cache := wellFormed.resolver.cache
  cases action with
  | register identity handle =>
    exact wellFormed.withRegistry fun registry notices done =>
      Registry.wellFormed_register wellFormed.resolver.registry done
  | unregister identity handle =>
    exact wellFormed.withRegistry fun registry notices done =>
      Registry.wellFormed_unregister wellFormed.resolver.registry done
  | add occurrence => exact wellFormed.withCache (Cache.wellFormed_add cache _ _)
  | remove occurrence => exact wellFormed.withCache (Cache.wellFormed_remove cache _)
  | clear => exact wellFormed.withCache (Cache.wellFormed_empty _)
  | lookupExact name version => exact wellFormed.withCache (Cache.wellFormed_bestExact cache _ _ _)
  | lookupCompatible name constraint =>
    exact wellFormed.withCache (Cache.wellFormed_bestCompatible cache _ _ _)
  | wait span => exact ⟨wellFormed.resolver, Instant.after_reached _ _⟩
  | round outcome span =>
    exact ⟨Resolver.wellFormed_update wellFormed.resolver _ _, Instant.after_reached _ _⟩
  | resolve query busy outcome span =>
    refine ⟨(moment.resolution_course query busy outcome span).wellFormed wellFormed.resolver, ?_⟩
    show Instant.nanoseconds (if _ then _ else _) ≤ _
    split
    · exact wellFormed.reached
    · exact Instant.after_reached _ _

/-- Nothing that happens at a node gives it another id. -/
theorem node_step (moment : Moment) (action : Action) :
    (moment.step action).resolver.node = moment.resolver.node := by
  cases action with
  | register identity handle | unregister identity handle =>
    show (moment.withRegistry _).resolver.node = _
    unfold withRegistry
    split <;> rfl
  | resolve query busy outcome span =>
    exact (moment.resolution_course query busy outcome span).frame.1
  | _ => rfl

theorem Reachable.wellFormed (reachable : moment.Reachable) : moment.WellFormed := by
  induction reachable with
  | start node lifetime reached =>
    exact ⟨⟨Catalog.WellFormed.empty, Cache.wellFormed_empty lifetime⟩, reached⟩
  | step _ action inductionHypothesis => exact wellFormed_step inductionHypothesis action

/-- The moment after several things happened. -/
def after (moment : Moment) (actions : List Action) : Moment :=
  actions.foldl step moment

theorem Reachable.after {moment : Moment} (reachable : moment.Reachable) (actions : List Action) :
    (moment.after actions).Reachable := by
  induction actions generalizing moment with
  | nil => exact reachable
  | cons action others inductionHypothesis => exact inductionHypothesis (reachable.step action)

/-! ### What a resolution answers -/

/-- The answer of a resolution has the requested name and a version that fits, the pinned one
if the query is exact. If it runs on this node, it is what is registered under its identity
when the resolution is over; otherwise it is cached under its identity then and was last seen
no longer ago than the lifetime. An offer of anything else is never the answer, but cached. -/
theorem resolution_sound (reachable : moment.Reachable) (query : Query) (busy : Bool)
    (outcome : Round.Outcome) (span : Duration) {occurrence : Instance}
    (answered : (moment.resolution query busy outcome span).result = .ok occurrence) :
    (occurrence.identity.name = query.request.name ∧
      query.request.constraint.fits occurrence.identity.version = true ∧
      (query.exact = true →
        query.request.constraint.pinned? = some occurrence.identity.version)) ∧
    (occurrence.isHere = true →
      (moment.afterResolution query busy outcome span).resolver.registry.lookupExact
        occurrence.identity.name occurrence.identity.version = some occurrence) ∧
    (occurrence.isHere = false →
      occurrence ∈ (moment.afterResolution query busy outcome span).resolver.cache.stored
        occurrence.identity.name occurrence.identity.version ∧
      (moment.afterResolution query busy outcome span).now.nanoseconds ≤
        occurrence.lastSeen.nanoseconds + moment.resolver.cache.lifetime.nanoseconds) ∧
    ∀ offer ∈ Round.offers outcome,
      ¬ Registry.Answers query.request query.exact offer.identity →
        offer.identity ≠ occurrence.identity ∧
        ((moment.resolution query busy outcome span).sent ≠ [] →
          (moment.afterResolution query busy outcome span).resolver.cache.Knows offer.identity
            (.remote offer.agent offer.node)) := by
  have wellFormed := reachable.wellFormed
  have course := moment.resolution_course query busy outcome span
  have later := wellFormed_step wellFormed (.resolve query busy outcome span)
  obtain ⟨answers, place⟩ := course.sound wellFormed.resolver answered
  refine ⟨answers, fun here => ?_, fun away => ?_, fun offer offered other => ⟨?_, fun sent => ?_⟩⟩
  · rcases place with ⟨_, registered⟩ | ⟨away, _⟩
    · exact registered
    · rw [here] at away
      cases away
  · rcases place with ⟨here, _⟩ | ⟨_, stored, fresh⟩
    · rw [away] at here
      cases here
    · refine ⟨stored, Nat.not_lt.mp fun outdated => ?_⟩
      have expired := (Instance.isOutdated_iff occurrence moment.resolver.cache.lifetime
        later.reached).mpr outdated
      exact Bool.false_ne_true (fresh.symm.trans expired)
  · intro same
    rw [same] at other
    exact other answers
  · exact course.knows wellFormed.resolver sent offered other

/-- A node that knows nothing, what it asks for, and two answers to that: an offer of something
else and one that fits. -/
def asker : Moment :=
  ⟨Resolver.empty (Bytes32.filled 0) ⟨5⟩, Instant.zero⟩

def anyGreeting : Query :=
  ⟨⟨"greeting", .any⟩, false, false, "asker"⟩

def strangeAnswer : Envelope :=
  ⟨"stranger", Bytes32.filled 1, Bytes32.filled 0, .reply ⟨"farewell", ⟨1, 0, 0⟩⟩⟩

def greetingAnswer : Envelope :=
  ⟨"second", Bytes32.filled 2, Bytes32.filled 0, .reply ⟨"greeting", ⟨1, 10, 0⟩⟩⟩

theorem offers_of_strange {strange greeting : Bytes}
    (strangeSent : Wire.encode strangeAnswer = .ok strange)
    (greetingSent : Wire.encode greetingAnswer = .ok greeting) :
    Round.offers (.ok [strange, greeting]) =
      [⟨⟨"farewell", ⟨1, 0, 0⟩⟩, "stranger", Bytes32.filled 1⟩] ++
        [⟨⟨"greeting", ⟨1, 10, 0⟩⟩, "second", Bytes32.filled 2⟩] := by
  rw [Round.offers, List.filterMap_cons_some (Round.offer_of_encode strangeSent rfl),
    List.filterMap_cons_some (Round.offer_of_encode greetingSent rfl)]
  rfl

/-- Of the two answers the one that fits is taken, and both are cached. -/
theorem resolution_sound_strange :
    ∃ strange greeting, Wire.encode strangeAnswer = .ok strange ∧
      Wire.encode greetingAnswer = .ok greeting ∧
      Instance.remote ⟨"greeting", ⟨1, 10, 0⟩⟩ "second" (Bytes32.filled 2) 2 ⟨7⟩ ∈
        (asker.afterResolution anyGreeting false
          (.ok [strange, greeting]) ⟨7⟩).resolver.cache.stored "greeting" ⟨1, 10, 0⟩ ∧
      (asker.afterResolution anyGreeting false (.ok [strange, greeting]) ⟨7⟩).resolver.cache.Knows
        ⟨"farewell", ⟨1, 0, 0⟩⟩ (.remote "stranger" (Bytes32.filled 1)) := by
  obtain ⟨strange, strangeSent⟩ : ∃ datagram, Wire.encode strangeAnswer = .ok datagram :=
    ⟨_, (Wire.encode_eq_ok_iff _ _).mpr ⟨by decide +kernel, rfl⟩⟩
  obtain ⟨greeting, greetingSent⟩ : ∃ datagram, Wire.encode greetingAnswer = .ok datagram :=
    ⟨_, (Wire.encode_eq_ok_iff _ _).mpr ⟨by decide +kernel, rfl⟩⟩
  have received := offers_of_strange strangeSent greetingSent
  have reachable : asker.Reachable := .start _ _ (by decide)
  have answered : (asker.resolution anyGreeting false (.ok [strange, greeting]) ⟨7⟩).result =
      .ok (Instance.remote ⟨"greeting", ⟨1, 10, 0⟩⟩ "second" (Bytes32.filled 2) 2 ⟨7⟩) := by
    show (asker.resolver.resolve anyGreeting false asker.now
      fun _ => ⟨.ok [strange, greeting], ⟨7⟩⟩).result = _
    rw [Resolver.result_of_newest reachable.wellFormed.resolver rfl rfl (Or.inr rfl) rfl received
      (by decide) rfl rfl (by decide) (by decide)]
    rfl
  obtain ⟨_, _, away, others⟩ := resolution_sound reachable anyGreeting false _ ⟨7⟩ answered
  rw [received] at others
  have stranger := others _ (List.mem_append_left _ (List.mem_singleton.mpr rfl))
    fun answers => absurd answers.1 (by decide)
  exact ⟨strange, greeting, strangeSent, greetingSent, (away rfl).1,
    stranger.2 (List.cons_ne_nil _ _)⟩

end Moment

end ServiceDiscovery
