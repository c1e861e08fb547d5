/-
This file proves which ways a resolution can go. There are seven: the query names no version,
it stays on this node, this node has a match and time for it, the cache has one, a round brings
one, a round brings none and this node has a match after all, or nothing is found anywhere. Each
way says what is sent, what is left behind and what comes out.
-/

import ServiceDiscovery.Proofs.Resolver

namespace ServiceDiscovery.Resolver

variable (resolver : Resolver) (query : Query) (busy : Bool) (now : Instant)
  (exchange : Envelope → Exchange)

/-- The question to the network. -/
def question : Envelope :=
  Round.envelope resolver.node query.requester query.request query.exact

/-- The moment at which the round is over. -/
def ending : Instant :=
  (exchange (resolver.question query)).ending

/-- The resolver after a lookup and a round. -/
def asked : Resolver :=
  ((resolver.remoteMatch query now).2.update (exchange (resolver.question query)).outcome
    (resolver.ending query exchange)).1

/-- The ways in which a resolution can go. -/
inductive Course : Resolution → Prop where
  | unaddressed (unaddressed : isUnaddressed query = true) :
      Course ⟨resolver, [], notFound query none⟩
  | localOnly (addressed : isUnaddressed query = false) (confined : query.localOnly = true) :
      Course ⟨resolver, [], orNotFound query none (resolver.localMatch query)⟩
  | here (addressed : isUnaddressed query = false) (outward : query.localOnly = false)
      (idle : busy = false) {occurrence : Instance}
      (found : resolver.localMatch query = some occurrence) :
      Course ⟨resolver, [], .ok occurrence⟩
  | cached (addressed : isUnaddressed query = false) (outward : query.localOnly = false)
      (wanted : busy = true ∨ resolver.localMatch query = none) {occurrence : Instance}
      (found : (resolver.remoteMatch query now).1 = some occurrence) :
      Course ⟨(resolver.remoteMatch query now).2, [], .ok occurrence⟩
  | discovered (addressed : isUnaddressed query = false) (outward : query.localOnly = false)
      (wanted : busy = true ∨ resolver.localMatch query = none) {occurrence : Instance}
      (missing : (resolver.remoteMatch query now).1 = none)
      (found : ((resolver.asked query now exchange).remoteMatch query
        (resolver.ending query exchange)).1 = some occurrence) :
      Course ⟨((resolver.asked query now exchange).remoteMatch query
        (resolver.ending query exchange)).2, [resolver.question query], .ok occurrence⟩
  | fallback (addressed : isUnaddressed query = false) (outward : query.localOnly = false)
      (overloaded : busy = true) {occurrence : Instance}
      (missing : (resolver.remoteMatch query now).1 = none)
      (still : ((resolver.asked query now exchange).remoteMatch query
        (resolver.ending query exchange)).1 = none)
      (found : resolver.localMatch query = some occurrence) :
      Course ⟨((resolver.asked query now exchange).remoteMatch query
        (resolver.ending query exchange)).2, [resolver.question query], .ok occurrence⟩
  | nothing (addressed : isUnaddressed query = false) (outward : query.localOnly = false)
      (missing : (resolver.remoteMatch query now).1 = none)
      (still : ((resolver.asked query now exchange).remoteMatch query
        (resolver.ending query exchange)).1 = none)
      (unknown : resolver.localMatch query = none) :
      Course ⟨((resolver.asked query now exchange).remoteMatch query
        (resolver.ending query exchange)).2, [resolver.question query],
        notFound query (causeOf none ((resolver.remoteMatch query now).2.update
          (exchange (resolver.question query)).outcome (resolver.ending query exchange)).2)⟩

variable {resolver query busy now exchange}

/-- A query that may go to the network and has to, asks the cache first. -/
theorem start_of_wanted (addressed : isUnaddressed query = false)
    (outward : query.localOnly = false)
    (wanted : busy = true ∨ resolver.localMatch query = none) :
    resolver.start query busy now =
      match resolver.remoteMatch query now with
      | (some occurrence, resolver) => (resolver, .settled (.ok occurrence))
      | (none, resolver') =>
        (resolver', .asking (resolver'.question query) ⟨query, resolver.localMatch query⟩) := by
  unfold start
  rw [addressed, outward, if_neg Bool.false_ne_true, if_neg Bool.false_ne_true]
  rcases wanted with rfl | unknown
  · cases resolver.localMatch query <;> rfl
  · rw [unknown]
    rfl

/-- The second half is a round and a lookup, which finds something or does not. -/
theorem finish_of_found {localMatch : Option Instance} {outcome : Round.Outcome}
    {occurrence : Instance}
    (found : ((resolver.update outcome now).1.remoteMatch query now).1 = some occurrence) :
    resolver.finish ⟨query, localMatch⟩ outcome now =
      (((resolver.update outcome now).1.remoteMatch query now).2, .ok occurrence) := by
  show (match (resolver.update outcome now).1.remoteMatch query now with
    | (some occurrence, resolver) => (resolver, Except.ok occurrence)
    | (none, resolver) => _) = _
  cases lookup : (resolver.update outcome now).1.remoteMatch query now with
  | mk first resolver' =>
    rw [lookup] at found
    cases found
    rfl

theorem finish_of_missing {localMatch : Option Instance} {outcome : Round.Outcome}
    (missing : ((resolver.update outcome now).1.remoteMatch query now).1 = none) :
    resolver.finish ⟨query, localMatch⟩ outcome now =
      (((resolver.update outcome now).1.remoteMatch query now).2,
        orNotFound query (causeOf localMatch (resolver.update outcome now).2) localMatch) := by
  show (match (resolver.update outcome now).1.remoteMatch query now with
    | (some occurrence, resolver) => (resolver, Except.ok occurrence)
    | (none, resolver') => (resolver',
        orNotFound query (causeOf localMatch (resolver.update outcome now).2) localMatch)) = _
  cases lookup : (resolver.update outcome now).1.remoteMatch query now with
  | mk first resolver' =>
    rw [lookup] at missing
    cases missing
    rfl

/-- A query that finds an instance in the cache is answered with it. -/
theorem resolve_of_found (addressed : isUnaddressed query = false)
    (outward : query.localOnly = false)
    (wanted : busy = true ∨ resolver.localMatch query = none) {occurrence : Instance}
    (found : (resolver.remoteMatch query now).1 = some occurrence) :
    resolver.resolve query busy now exchange =
      ⟨(resolver.remoteMatch query now).2, [], .ok occurrence⟩ := by
  rw [resolve, start_of_wanted addressed outward wanted]
  cases lookup : resolver.remoteMatch query now with
  | mk first resolver' =>
    rw [lookup] at found
    cases found
    rfl

theorem question_remoteMatch (resolver : Resolver) (query : Query) (now : Instant) :
    (resolver.remoteMatch query now).2.question query = resolver.question query := by
  rw [question, (resolver.remoteMatch_frame query now).1]
  rfl

/-- A query that finds nothing in the cache is asked, and the cache is looked at again. -/
theorem resolve_of_missing (addressed : isUnaddressed query = false)
    (outward : query.localOnly = false)
    (wanted : busy = true ∨ resolver.localMatch query = none)
    (missing : (resolver.remoteMatch query now).1 = none) :
    resolver.resolve query busy now exchange =
      ⟨((resolver.remoteMatch query now).2.finish ⟨query, resolver.localMatch query⟩
          (exchange (resolver.question query)).outcome (resolver.ending query exchange)).1,
        [resolver.question query],
        ((resolver.remoteMatch query now).2.finish ⟨query, resolver.localMatch query⟩
          (exchange (resolver.question query)).outcome (resolver.ending query exchange)).2⟩ := by
  have same := question_remoteMatch resolver query now
  rw [resolve, start_of_wanted addressed outward wanted]
  cases lookup : resolver.remoteMatch query now with
  | mk found resolver' =>
    rw [lookup] at missing same
    cases missing
    change resolver'.question query = _ at same
    simp only [ending, ← same]

theorem resolve_course :
    Course resolver query busy now exchange (resolver.resolve query busy now exchange) := by
  cases addressed : isUnaddressed query with
  | true =>
    unfold resolve start
    rw [addressed, if_pos rfl]
    exact .unaddressed addressed
  | false =>
    cases outward : query.localOnly with
    | true =>
      unfold resolve start
      rw [addressed, outward, if_neg Bool.false_ne_true, if_pos rfl]
      exact .localOnly addressed outward
    | false =>
      by_cases wanted : busy = true ∨ resolver.localMatch query = none
      · cases first : (resolver.remoteMatch query now).1 with
        | some occurrence =>
          rw [resolve_of_found addressed outward wanted first]
          exact .cached addressed outward wanted first
        | none =>
          rw [resolve_of_missing addressed outward wanted first]
          cases second : ((resolver.asked query now exchange).remoteMatch query
              (resolver.ending query exchange)).1 with
          | some occurrence =>
            rw [finish_of_found second]
            exact .discovered addressed outward wanted first second
          | none =>
            rw [finish_of_missing second]
            cases matched : resolver.localMatch query with
            | some occurrence =>
              have overloaded := wanted.resolve_right (Option.ne_none_iff_exists'.mpr ⟨_, matched⟩)
              exact .fallback addressed outward overloaded first second matched
            | none => exact .nothing addressed outward first second matched
      · rw [not_or] at wanted
        obtain ⟨occurrence, found⟩ := Option.ne_none_iff_exists'.mp wanted.2
        obtain rfl := (Bool.not_eq_true busy).mp wanted.1
        unfold resolve start
        rw [addressed, outward, found]
        exact .here addressed outward rfl found

/-! ### What every way keeps -/

theorem wellFormed_update (wellFormed : resolver.WellFormed) (outcome : Round.Outcome)
    (now : Instant) : (resolver.update outcome now).1.WellFormed :=
  ⟨wellFormed.registry, Round.wellFormed_settle wellFormed.cache now outcome⟩

theorem wellFormed_asked (wellFormed : resolver.WellFormed) (query : Query) (now : Instant)
    (exchange : Envelope → Exchange) : (resolver.asked query now exchange).WellFormed :=
  wellFormed_update (wellFormed_remoteMatch wellFormed query now) _ _

/-- A round changes nothing but the cache. -/
theorem asked_frame (resolver : Resolver) (query : Query) (now : Instant)
    (exchange : Envelope → Exchange) :
    (resolver.asked query now exchange).node = resolver.node ∧
      (resolver.asked query now exchange).registry = resolver.registry ∧
      (resolver.asked query now exchange).cache.lifetime = resolver.cache.lifetime := by
  obtain ⟨node, registry, lifetime⟩ := resolver.remoteMatch_frame query now
  exact ⟨node, registry, (Round.lifetime_settle _ _ _).trans lifetime⟩

/-- A lookup keeps what it does not cover. -/
theorem knows_remoteMatch (wellFormed : resolver.WellFormed) {identity : Identity}
    {place : Locality} (known : resolver.cache.Knows identity place)
    (other : ¬ (query.request.name = identity.name ∧ covers query identity.version = true))
    (now : Instant) : (resolver.remoteMatch query now).2.cache.Knows identity place := by
  unfold Cache.Knows
  rw [stored_remoteMatch wellFormed, if_neg other]
  exact known

/-- Every offer of a round is cached when it is over. -/
theorem knows_asked {offer : Round.Offer}
    (offered : offer ∈ Round.offers (exchange (resolver.question query)).outcome) :
    (resolver.asked query now exchange).cache.Knows offer.identity
      (.remote offer.agent offer.node) :=
  Round.knows_settle offered _ _

/-! ### What a round brings -/

/-- A lookup that finds nothing leaves nothing of the versions that it covers. -/
theorem stored_of_missing (wellFormed : resolver.WellFormed)
    (missing : (resolver.remoteMatch query now).1 = none) {version : Version}
    (covered : covers query version = true) :
    (resolver.remoteMatch query now).2.cache.stored query.request.name version = [] := by
  rw [stored_remoteMatch wellFormed, if_pos ⟨rfl, covered⟩]
  exact (remoteMatch_eq_none_iff wellFormed query now).mp missing version covered

/-- After the round, the offers of the round are all there is of a covered version. -/
theorem stored_asked (wellFormed : resolver.WellFormed)
    (missing : (resolver.remoteMatch query now).1 = none) {offers : List Round.Offer}
    (received : Round.offers (exchange (resolver.question query)).outcome = offers)
    (distinct : offers.Pairwise fun first second => first.node ≠ second.node) {version : Version}
    (covered : covers query version = true) :
    (resolver.asked query now exchange).cache.stored query.request.name version =
      (Round.ranking (resolver.ending query exchange) 0 offers).filter
        (Cache.carries ⟨query.request.name, version⟩) := by
  have nothing := stored_of_missing wellFormed missing covered
  show (Round.settle (resolver.remoteMatch query now).2.cache _ _).1.stored _ _ = _
  rw [Round.fst_settle, received, Cache.stored_addAll, nothing, List.nil_append]
  · intro occurrence member
    obtain ⟨offer, _, rank, _, rfl⟩ := Round.mem_ranking member
    rfl
  · exact Round.distinct_ranking distinct _ 0
  · intro existing member
    rw [nothing] at member
    cases member

/-- What came with a round is fresh when the round is over. -/
theorem fresh_asked (wellFormed : resolver.WellFormed)
    (missing : (resolver.remoteMatch query now).1 = none) {offers : List Round.Offer}
    (received : Round.offers (exchange (resolver.question query)).outcome = offers)
    (distinct : offers.Pairwise fun first second => first.node ≠ second.node) {version : Version}
    (covered : covers query version = true) (lifetime : Duration) :
    Cache.fresh lifetime (resolver.ending query exchange)
        ((resolver.asked query now exchange).cache.stored query.request.name version) =
      (Round.ranking (resolver.ending query exchange) 0 offers).filter
        (Cache.carries ⟨query.request.name, version⟩) := by
  rw [stored_asked wellFormed missing received distinct covered]
  refine Cache.fresh_of_seen (fun occurrence member => ?_) lifetime
  obtain ⟨offer, _, rank, _, rfl⟩ := Round.mem_ranking (List.mem_filter.mp member).1
  rfl

/-- A round that brings datagrams is no cause to complain of. -/
theorem snd_update_of_ok (resolver : Resolver) (datagrams : List Bytes) (now : Instant) :
    (resolver.update (.ok datagrams) now).2 =
      .ok (decide (0 < (datagrams.filterMap Round.offer?).length)) := by
  simp only [update, Round.settle, Round.fold_eq, Nat.zero_add]

theorem causeOf_of_ok (localMatch : Option Instance) (any : Bool) :
    causeOf localMatch (.ok any) = none := by
  cases localMatch <;> rfl

/-- A round without offers leaves nothing to be found. -/
theorem remoteMatch_asked_of_nil (wellFormed : resolver.WellFormed)
    (missing : (resolver.remoteMatch query now).1 = none)
    (received : Round.offers (exchange (resolver.question query)).outcome = []) :
    ((resolver.asked query now exchange).remoteMatch query
      (resolver.ending query exchange)).1 = none := by
  refine (remoteMatch_eq_none_iff (wellFormed_asked wellFormed query now exchange) _ _).mpr ?_
  intro version covered
  exact fresh_asked wellFormed missing received List.Pairwise.nil covered _

/-- A round with offers leaves the first one of the newest version to be found. -/
theorem remoteMatch_asked_of_newest (wellFormed : resolver.WellFormed)
    (missing : (resolver.remoteMatch query now).1 = none)
    {before after : List Round.Offer} {best : Round.Offer}
    (received : Round.offers (exchange (resolver.question query)).outcome =
      before ++ best :: after)
    (distinct : (before ++ best :: after).Pairwise fun first second => first.node ≠ second.node)
    (name : best.identity.name = query.request.name)
    (covered : covers query best.identity.version = true)
    (older : ∀ offer ∈ before, offer.identity.version.place < best.identity.version.place)
    (notNewer : ∀ offer ∈ after, offer.identity.version.place ≤ best.identity.version.place) :
    ((resolver.asked query now exchange).remoteMatch query
        (resolver.ending query exchange)).1 =
      some (best.ranked (before.length + 1) (resolver.ending query exchange)) := by
  refine (remoteMatch_eq_some_iff (wellFormed_asked wellFormed query now exchange) _ _ _).mpr
    ⟨best.identity.version, covered, ?_, fun newer newerCovered later => ?_⟩
  · rw [fresh_asked wellFormed missing received distinct covered, ← name]
    refine Round.fastest_ranking (fun offer member same => ?_) _
    have less := older offer member
    rw [same] at less
    exact Nat.lt_irrefl _ less
  · rw [fresh_asked wellFormed missing received distinct newerCovered]
    refine Round.filter_ranking_eq_nil (fun offer member same => ?_) _ _
    have atMost : offer.identity.version.place ≤ best.identity.version.place := by
      rcases List.mem_append.mp member with member | member
      · exact Nat.le_of_lt (older offer member)
      · rcases List.mem_cons.mp member with rfl | member
        · exact Nat.le_refl _
        · exact notNewer offer member
    rw [same] at atMost
    exact absurd later (Nat.not_lt.mpr atMost)

/-- What a query resolves to if its round brings offers: the first one of the newest version. -/
theorem result_of_newest (wellFormed : resolver.WellFormed)
    (addressed : isUnaddressed query = false) (outward : query.localOnly = false)
    (wanted : busy = true ∨ resolver.localMatch query = none)
    (missing : (resolver.remoteMatch query now).1 = none)
    {before after : List Round.Offer} {best : Round.Offer}
    (received : Round.offers (exchange (resolver.question query)).outcome =
      before ++ best :: after)
    (distinct : (before ++ best :: after).Pairwise fun first second => first.node ≠ second.node)
    (name : best.identity.name = query.request.name)
    (covered : covers query best.identity.version = true)
    (older : ∀ offer ∈ before, offer.identity.version.place < best.identity.version.place)
    (notNewer : ∀ offer ∈ after, offer.identity.version.place ≤ best.identity.version.place) :
    (resolver.resolve query busy now exchange).result =
      .ok (best.ranked (before.length + 1) (resolver.ending query exchange)) := by
  have found := remoteMatch_asked_of_newest wellFormed missing received distinct name covered
    older notNewer
  rw [resolve_of_missing addressed outward wanted missing, finish_of_found found]

namespace Course

variable {resolution : Resolution}

/-- A resolution changes nothing but the cache. -/
theorem frame (course : Course resolver query busy now exchange resolution) :
    resolution.resolver.node = resolver.node ∧
      resolution.resolver.registry = resolver.registry ∧
      resolution.resolver.cache.lifetime = resolver.cache.lifetime := by
  have first := resolver.remoteMatch_frame query now
  have second := resolver.asked_frame query now exchange
  have third := (resolver.asked query now exchange).remoteMatch_frame query
    (resolver.ending query exchange)
  rw [second.1, second.2.1, second.2.2] at third
  cases course with
  | unaddressed | localOnly | here => exact ⟨rfl, rfl, rfl⟩
  | cached => exact first
  | discovered | fallback | nothing => exact third

theorem wellFormed (course : Course resolver query busy now exchange resolution)
    (wellFormed : resolver.WellFormed) : resolution.resolver.WellFormed := by
  cases course with
  | unaddressed | localOnly | here => exact wellFormed
  | cached => exact wellFormed_remoteMatch wellFormed query now
  | discovered | fallback | nothing =>
    exact wellFormed_remoteMatch (wellFormed_asked wellFormed query now exchange) _ _

/-! ### What comes out -/

/-- The moment at which a resolution is over. -/
def returning (resolver : Resolver) (query : Query) (now : Instant)
    (exchange : Envelope → Exchange) (resolution : Resolution) : Instant :=
  if resolution.sent.isEmpty then now else resolver.ending query exchange

/-- A match on this node answers the query and is registered under its own identity. -/
theorem localMatch_sound (wellFormed : resolver.WellFormed)
    (addressed : isUnaddressed query = false) {occurrence : Instance}
    (found : resolver.localMatch query = some occurrence) :
    Registry.Answers query.request query.exact occurrence.identity ∧
      occurrence.isHere = true ∧
      resolver.registry.lookupExact occurrence.identity.name occurrence.identity.version =
        some occurrence := by
  rw [localMatch_eq_serves addressed] at found
  exact Registry.serves_sound wellFormed.registry found

/-- Whatever way a resolution goes, its answer is one to the query. An instance on this node is
registered; an instance on another node is cached and not outdated when the resolution is over. -/
theorem sound (course : Course resolver query busy now exchange resolution)
    (wellFormed : resolver.WellFormed) {occurrence : Instance}
    (answered : resolution.result = .ok occurrence) :
    Registry.Answers query.request query.exact occurrence.identity ∧
      ((occurrence.isHere = true ∧
          resolution.resolver.registry.lookupExact occurrence.identity.name
            occurrence.identity.version = some occurrence) ∨
        (occurrence.isHere = false ∧
          occurrence ∈ resolution.resolver.cache.stored occurrence.identity.name
            occurrence.identity.version ∧
          occurrence.isOutdated resolver.cache.lifetime
            (returning resolver query now exchange resolution) = false)) := by
  have registry := course.frame.2.1
  cases course with
  | unaddressed unaddressed => cases answered
  | localOnly addressed confined =>
    cases found : resolver.localMatch query with
    | none =>
      rw [found] at answered
      cases answered
    | some other =>
      rw [found] at answered
      cases answered
      obtain ⟨answers, here, registered⟩ := localMatch_sound wellFormed addressed found
      exact ⟨answers, Or.inl ⟨here, registered⟩⟩
  | here addressed outward idle found =>
    cases answered
    obtain ⟨answers, here, registered⟩ := localMatch_sound wellFormed addressed found
    exact ⟨answers, Or.inl ⟨here, registered⟩⟩
  | cached addressed outward wanted found =>
    cases answered
    obtain ⟨name, covered, away, fresh, stored⟩ := remoteMatch_sound wellFormed found
    rw [covers_iff addressed, ← name] at covered
    exact ⟨covered, Or.inr ⟨away, stored, fresh⟩⟩
  | discovered addressed outward wanted missing found =>
    cases answered
    obtain ⟨name, covered, away, fresh, stored⟩ :=
      remoteMatch_sound (wellFormed_asked wellFormed query now exchange) found
    rw [covers_iff addressed, ← name] at covered
    rw [(asked_frame resolver query now exchange).2.2] at fresh
    exact ⟨covered, Or.inr ⟨away, stored, fresh⟩⟩
  | fallback addressed outward overloaded missing still found =>
    cases answered
    obtain ⟨answers, here, registered⟩ := localMatch_sound wellFormed addressed found
    rw [← registry] at registered
    exact ⟨answers, Or.inl ⟨here, registered⟩⟩
  | nothing => cases answered

/-- An offer of something else than was asked for is cached all the same. -/
theorem knows (course : Course resolver query busy now exchange resolution)
    (wellFormed : resolver.WellFormed) (sent : resolution.sent ≠ []) {offer : Round.Offer}
    (offered : offer ∈ Round.offers (exchange (resolver.question query)).outcome)
    (other : ¬ Registry.Answers query.request query.exact offer.identity) :
    resolution.resolver.cache.Knows offer.identity (.remote offer.agent offer.node) := by
  have kept : isUnaddressed query = false →
      ((resolver.asked query now exchange).remoteMatch query
        (resolver.ending query exchange)).2.cache.Knows offer.identity
          (.remote offer.agent offer.node) := by
    intro addressed
    refine knows_remoteMatch (wellFormed_asked wellFormed query now exchange)
      (knows_asked offered) ?_ _
    rintro ⟨name, covered⟩
    rw [covers_iff addressed, name] at covered
    exact other covered
  cases course with
  | unaddressed | localOnly | here | cached => exact absurd rfl sent
  | discovered addressed | fallback addressed | nothing addressed => exact kept addressed

end Course

end ServiceDiscovery.Resolver
