/-
This file proves that an answer from another node lasts. The lookup that finds it leaves nothing
outdated of the covered versions, so the answer is then the fastest of all that is cached of its
version, and of a newer covered version nothing is cached at all. Later lookups of the same only
take more away. Until the answer itself is outdated they find it again, and nobody is asked.
-/

import ServiceDiscovery.Proofs.Lookup

namespace ServiceDiscovery

/-! ### What leads the covered versions -/

namespace Resolver

variable {resolver : Resolver} {query : Query} {busy : Bool} {now : Instant}
  {exchange : Envelope → Exchange} {occurrence : Instance}

/-- The instance is the fastest that is cached of its version, and of no newer covered version
anything is cached. Outdated instances count. -/
def LedBy (resolver : Resolver) (query : Query) (occurrence : Instance) : Prop :=
  ∃ version, covers query version = true ∧
    Cache.fastest? (resolver.cache.stored query.request.name version) = some occurrence ∧
    ∀ newer, covers query newer = true → version.place < newer.place →
      resolver.cache.stored query.request.name newer = []

/-- What a lookup finds leads what it leaves. -/
theorem ledBy_remoteMatch (wellFormed : resolver.WellFormed)
    (found : (resolver.remoteMatch query now).1 = some occurrence) :
    (resolver.remoteMatch query now).2.LedBy query occurrence := by
  obtain ⟨version, covered, fastest, newest⟩ :=
    (remoteMatch_eq_some_iff wellFormed query now occurrence).mp found
  refine ⟨version, covered, ?_, fun newer newerCovered later => ?_⟩
  · rw [stored_remoteMatch wellFormed, if_pos ⟨rfl, covered⟩]
    exact fastest
  · rw [stored_remoteMatch wellFormed, if_pos ⟨rfl, newerCovered⟩]
    exact newest newer newerCovered later

/-- What leads is found, unless it is outdated. -/
theorem LedBy.remoteMatch (led : resolver.LedBy query occurrence)
    (wellFormed : resolver.WellFormed)
    (fresh : occurrence.isOutdated resolver.cache.lifetime now = false) :
    (resolver.remoteMatch query now).1 = some occurrence := by
  obtain ⟨version, covered, fastest, newest⟩ := led
  refine (remoteMatch_eq_some_iff wellFormed query now occurrence).mpr
    ⟨version, covered, Cache.fastest_filter fastest (by rw [fresh]; rfl), ?_⟩
  intro newer newerCovered later
  rw [newest newer newerCovered later]
  rfl

/-! ### One more query -/

/-- A query looks beyond its node, and the instance leads what it can find there. -/
structure Serves (resolver : Resolver) (query : Query) (busy : Bool) (occurrence : Instance) :
    Prop where
  wellFormed : resolver.WellFormed
  addressed : isUnaddressed query = false
  outward : query.localOnly = false
  wanted : busy = true ∨ resolver.localMatch query = none
  led : resolver.LedBy query occurrence

/-- A lookup leaves the node's own services as they are. -/
theorem wanted_remoteMatch (wanted : busy = true ∨ resolver.localMatch query = none)
    (now : Instant) :
    busy = true ∨ (resolver.remoteMatch query now).2.localMatch query = none := by
  unfold localMatch
  rw [(resolver.remoteMatch_frame query now).2.1]
  exact wanted

/-- Until it is outdated, the leading instance is the answer, and leads what is left. -/
theorem Serves.resolve (serves : resolver.Serves query busy occurrence)
    (fresh : occurrence.isOutdated resolver.cache.lifetime now = false)
    (exchange : Envelope → Exchange) :
    ∃ later, resolver.resolve query busy now exchange = ⟨later, [], .ok occurrence⟩ ∧
      later.Serves query busy occurrence ∧
      later.cache.lifetime = resolver.cache.lifetime := by
  have found := serves.led.remoteMatch serves.wellFormed fresh
  refine ⟨_, resolve_of_found serves.addressed serves.outward serves.wanted found, ?_,
    (resolver.remoteMatch_frame query now).2.2⟩
  exact ⟨wellFormed_remoteMatch serves.wellFormed query now, serves.addressed, serves.outward,
    wanted_remoteMatch serves.wanted now, ledBy_remoteMatch serves.wellFormed found⟩

/-- An answer from another node leads what its resolution leaves. -/
theorem Course.serves {resolution : Resolution}
    (course : Course resolver query busy now exchange resolution) (wellFormed : resolver.WellFormed)
    (away : occurrence.isHere = false) (answered : resolution.result = .ok occurrence) :
    resolution.resolver.Serves query busy occurrence := by
  have elsewhere {found : Instance} (addressed : isUnaddressed query = false)
      (matched : resolver.localMatch query = some found) : found ≠ occurrence := by
    rintro rfl
    exact Bool.false_ne_true (away.symm.trans (localMatch_sound wellFormed addressed matched).2.1)
  cases course with
  | unaddressed unaddressed => cases answered
  | localOnly addressed confined =>
    cases matched : resolver.localMatch query with
    | none =>
      rw [matched] at answered
      cases answered
    | some found =>
      rw [matched] at answered
      exact absurd (Except.ok.inj answered) (elsewhere addressed matched)
  | here addressed outward idle matched =>
    exact absurd (Except.ok.inj answered) (elsewhere addressed matched)
  | cached addressed outward wanted found =>
    cases answered
    exact ⟨wellFormed_remoteMatch wellFormed query now, addressed, outward,
      wanted_remoteMatch wanted now, ledBy_remoteMatch wellFormed found⟩
  | discovered addressed outward wanted missing found =>
    cases answered
    have asked := wellFormed_asked wellFormed query now exchange
    have still : busy = true ∨ (resolver.asked query now exchange).localMatch query = none :=
      wanted_remoteMatch wanted now
    exact ⟨wellFormed_remoteMatch asked query _, addressed, outward,
      wanted_remoteMatch still _, ledBy_remoteMatch asked found⟩
  | fallback addressed outward overloaded missing still matched =>
    exact absurd (Except.ok.inj answered) (elsewhere addressed matched)
  | nothing => cases answered

end Resolver

/-! ### Any number of further queries -/

namespace Moment

/-- A later query for the same: when it comes, on whose behalf, and the outcome and the length of
its round, should there be one. -/
structure Revisit where
  now : Instant
  requester : AgentId
  outcome : Round.Outcome
  span : Duration

/-- The resolution of a later query. -/
def Revisit.resolution (revisit : Revisit) (request : Request) (exact busy : Bool)
    (resolver : Resolver) : Resolver.Resolution :=
  Moment.resolution ⟨resolver, revisit.now⟩ ⟨request, exact, false, revisit.requester⟩ busy
    revisit.outcome revisit.span

/-- The resolutions of later queries, one after the other, with nothing else in between. -/
def resolutions (request : Request) (exact busy : Bool) :
    Resolver → List Revisit → List Resolver.Resolution
  | _, [] => []
  | resolver, revisit :: others =>
    revisit.resolution request exact busy resolver ::
      resolutions request exact busy (revisit.resolution request exact busy resolver).resolver
        others

/-- While it is not outdated, the leading instance is the answer to every later query. -/
theorem map_resolutions {request : Request} {exact busy : Bool} {requester : AgentId}
    {occurrence : Instance} {revisits : List Revisit} {resolver : Resolver}
    (serves : resolver.Serves ⟨request, exact, false, requester⟩ busy occurrence)
    (fresh : ∀ revisit ∈ revisits,
      occurrence.isOutdated resolver.cache.lifetime revisit.now = false) :
    (resolutions request exact busy resolver revisits).map
        (fun resolution => (resolution.sent, resolution.result)) =
      revisits.map fun _ => ([], .ok occurrence) := by
  induction revisits generalizing resolver with
  | nil => rfl
  | cons revisit others inductionHypothesis =>
    obtain ⟨first, rest⟩ := List.forall_mem_cons.mp fresh
    -- On whose behalf a query is made does not matter to what it finds.
    have again : resolver.Serves ⟨request, exact, false, revisit.requester⟩ busy occurrence :=
      ⟨serves.wellFormed, serves.addressed, rfl, serves.wanted, serves.led⟩
    obtain ⟨later, resolved, still, lifetime⟩ :=
      again.resolve first fun _ => ⟨revisit.outcome, revisit.now.after revisit.span⟩
    have same : revisit.resolution request exact busy resolver = ⟨later, [], .ok occurrence⟩ :=
      resolved
    rw [resolutions, List.map_cons, List.map_cons, same]
    have onward : later.Serves ⟨request, exact, false, requester⟩ busy occurrence :=
      ⟨still.wellFormed, still.addressed, rfl, still.wanted, still.led⟩
    rw [inductionHypothesis onward (lifetime ▸ rest)]

/-- An answer from another node lasts as long as its lifetime. Whatever else is cached of that name
and expires meanwhile, every further query for the same request, as exact as the first one and on a
node as busy, is answered with the very same instance, and sends nothing. -/
theorem answer_lasts {moment : Moment} (reachable : moment.Reachable) {request : Request}
    {exact busy : Bool} {requester : AgentId} {outcome : Round.Outcome} {span : Duration}
    {occurrence : Instance} (away : occurrence.isHere = false)
    (answered : (moment.resolution ⟨request, exact, false, requester⟩ busy outcome span).result =
      .ok occurrence)
    {revisits : List Revisit}
    (inTime : ∀ revisit ∈ revisits, revisit.now.nanoseconds ≤
      occurrence.lastSeen.nanoseconds + moment.resolver.cache.lifetime.nanoseconds) :
    (resolutions request exact busy
          (moment.resolution ⟨request, exact, false, requester⟩ busy outcome span).resolver
          revisits).map (fun resolution => (resolution.sent, resolution.result)) =
      revisits.map fun _ => ([], .ok occurrence) := by
  have course := moment.resolution_course ⟨request, exact, false, requester⟩ busy outcome span
  have serves := course.serves reachable.wellFormed.resolver away answered
  refine map_resolutions serves fun revisit member => ?_
  rw [course.frame.2.2]
  exact Instance.isOutdated_of_inTime (inTime revisit member)

/-- A greeting on another node, with its rank and the time when it was last seen. -/
def greetingSeen (version : Version) (node : UInt8) (rank : Nat) (seen : Instant) : Instance :=
  Instance.remote ⟨"greeting", version⟩ "greeter" (Bytes32.filled node) rank seen

/-- Two versions of a greeting, the newer one on two nodes. Its fastest instance was seen last. -/
def fading : Moment :=
  asker.after [.add (greetingSeen ⟨1, 0, 0⟩ 1 1 ⟨0⟩), .add (greetingSeen ⟨2, 0, 0⟩ 2 9 ⟨1⟩),
    .add (greetingSeen ⟨2, 0, 0⟩ 3 7 ⟨4⟩), .wait ⟨4⟩]

/-- A query on behalf of another agent, and a later one. -/
def twoRevisits : List Revisit :=
  [⟨⟨7⟩, "other", .ok [], ⟨7⟩⟩, ⟨⟨9⟩, "asker", .ok [], ⟨7⟩⟩]

/-- Two more queries come when the others of the name are outdated, the last one just in time. -/
theorem answer_lasts_fading :
    (fading.resolution anyGreeting false (.ok []) ⟨7⟩).result =
      .ok (greetingSeen ⟨2, 0, 0⟩ 3 7 ⟨4⟩) ∧
    (resolutions anyGreeting.request false false
          (fading.resolution anyGreeting false (.ok []) ⟨7⟩).resolver twoRevisits).map
        (fun resolution => (resolution.sent, resolution.result)) =
      [([], .ok (greetingSeen ⟨2, 0, 0⟩ 3 7 ⟨4⟩)), ([], .ok (greetingSeen ⟨2, 0, 0⟩ 3 7 ⟨4⟩))] ∧
    (greetingSeen ⟨1, 0, 0⟩ 1 1 ⟨0⟩).isOutdated ⟨5⟩ ⟨7⟩ = true ∧
    (greetingSeen ⟨2, 0, 0⟩ 2 9 ⟨1⟩).isOutdated ⟨5⟩ ⟨7⟩ = true := by
  have reachable : fading.Reachable := Reachable.after (.start _ _ (by decide)) _
  have answered : (fading.resolution anyGreeting false (.ok []) ⟨7⟩).result =
      .ok (greetingSeen ⟨2, 0, 0⟩ 3 7 ⟨4⟩) := by
    rfl
  have inTime : ∀ revisit ∈ twoRevisits, revisit.now.nanoseconds ≤ 9 := by
    decide
  exact ⟨answered, answer_lasts reachable rfl answered inTime, by decide, by decide⟩

end Moment

end ServiceDiscovery
