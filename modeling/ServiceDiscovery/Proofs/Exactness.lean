/-
This file proves that it does not matter whether a query is exact if its constraint is a version
written out. The pinned version is then the only one that fits, so the lookup of one version and
the search among all that fit come to the same instance, on the node and in the cache, and they
evict the same instances. All the rest of a resolution follows, and a node that is asked gives the
same answer to both questions.
-/

import ServiceDiscovery.Proofs.LocalLookup
import ServiceDiscovery.Proofs.Lookup

namespace ServiceDiscovery

/-! ### Constraints that are a version -/

namespace Constraint

/-- The constraint is a version with all its components, with an equals sign or without. -/
def Names (constraint : Constraint) (version : Version) : Prop :=
  constraint = .exact version ∨ constraint = .matching version.components

variable {constraint : Constraint} {version : Version}

theorem Names.pinned (named : constraint.Names version) : constraint.pinned? = some version := by
  rcases named with rfl | rfl <;> rfl

/-- No other version fits. -/
theorem Names.fits (named : constraint.Names version) : constraint.fits = (· == version) := by
  funext other
  rcases named with rfl | rfl
  · rfl
  · rw [Bool.eq_iff_iff]
    obtain ⟨major, minor, patch⟩ := other
    obtain ⟨wantedMajor, wantedMinor, wantedPatch⟩ := version
    simp [Constraint.fits, Version.components, Components.fittedBy, and_assoc]

end Constraint

/-! ### Both lookups on the node -/

theorem Shelf.find_reverse_eq_get {Entry : Type} {shelf : Shelf Entry}
    (ascending : Shelf.Ascending shelf) (version : Version) :
    (shelf.reverse.find? fun slot => slot.1 == version).map Prod.snd = shelf.get? version := by
  have newest (slot : Version × Entry) :=
    @Shelf.find_reverse_eq_some_iff Entry shelf (· == version) slot ascending
  refine Option.ext fun entry => ?_
  rw [Option.map_eq_some_iff]
  constructor
  · rintro ⟨slot, found, rfl⟩
    obtain ⟨member, here, _⟩ := (newest slot).mp found
    rw [← beq_iff_eq.mp here]
    exact Shelf.get_of_mem ascending member
  · intro found
    refine ⟨(version, entry), (newest _).mpr ⟨Shelf.mem_of_get found, beq_self_eq_true version,
      fun other _ here => ?_⟩, rfl⟩
    rw [beq_iff_eq.mp here]

namespace Registry

variable {registry : Registry} {request : Request} {version : Version}

/-- A request for a version written out is served by that version, exactly or not. -/
theorem serves_of_names (wellFormed : registry.WellFormed)
    (named : request.constraint.Names version) (exact : Bool) :
    registry.serves request exact = registry.lookupExact request.name version := by
  cases exact with
  | true =>
    rw [serves, if_pos rfl, named.pinned]
    rfl
  | false =>
    rw [serves_inexact, named.fits, lookupExact_eq]
    exact Shelf.find_reverse_eq_get (wellFormed.ascending_shelf request.name) version

end Registry

/-! ### Both lookups in the cache -/

namespace Cache

variable {cache : Cache} {constraint : Constraint} {version : Version}

theorem bestCompatible_of_names (wellFormed : cache.WellFormed) (named : constraint.Names version)
    (name : String) (now : Instant) :
    cache.bestCompatible name constraint now = cache.bestExact name version now := by
  have covers (other : Version) : constraint.fits other = true ↔ other = version := by
    rw [named.fits, beq_iff_eq]
  rw [bestCompatible_eq wellFormed, bestExact_eq wellFormed, named.fits,
    ← fst_bestCompatible cache name constraint now]
  refine Prod.ext (Option.ext fun best => ?_) rfl
  rw [bestCompatible_eq_some_iff wellFormed]
  constructor
  · rintro ⟨other, fits, fastest, _⟩
    rwa [(covers other).mp fits] at fastest
  · intro fastest
    refine ⟨version, (covers version).mpr rfl, fastest, fun newer fits later => ?_⟩
    rw [(covers newer).mp fits] at later
    exact absurd later (Nat.lt_irrefl _)

end Cache

/-! ### Both resolutions -/

/-- The content with another flag, if it is a question. -/
def Content.withExact (exact : Bool) : Content → Content
  | .request inquiry => .request { inquiry with exact := exact }
  | .reply identity => .reply identity

/-- The message with another flag, if it is a question. -/
def Envelope.withExact (exact : Bool) (envelope : Envelope) : Envelope :=
  { envelope with content := envelope.content.withExact exact }

namespace Resolver

variable {resolver : Resolver} {request : Request} {version : Version}

theorem isUnaddressed_of_names (named : request.constraint.Names version)
    (exact localOnly : Bool) (requester : AgentId) :
    isUnaddressed ⟨request, exact, localOnly, requester⟩ = false := by
  rw [isUnaddressed, named.pinned]
  exact Bool.and_false exact

theorem localMatch_of_names (wellFormed : resolver.WellFormed)
    (named : request.constraint.Names version) (exact localOnly : Bool) (requester : AgentId) :
    resolver.localMatch ⟨request, exact, localOnly, requester⟩ =
      resolver.registry.lookupExact request.name version := by
  rw [localMatch_eq_serves (isUnaddressed_of_names named exact localOnly requester)]
  exact Registry.serves_of_names wellFormed.registry named exact

theorem remoteMatch_of_names (wellFormed : resolver.WellFormed)
    (named : request.constraint.Names version) (exact localOnly : Bool) (requester : AgentId)
    (now : Instant) :
    resolver.remoteMatch ⟨request, exact, localOnly, requester⟩ now =
      ((resolver.cache.bestExact request.name version now).1,
        { resolver with cache := (resolver.cache.bestExact request.name version now).2 }) := by
  unfold remoteMatch
  cases exact with
  | true =>
    rw [pinned_of_exact rfl, named.pinned]
  | false =>
    rw [pinned_of_inexact rfl]
    simp only [Cache.bestCompatible_of_names wellFormed.cache named]

/-- The second half of a resolution is the same for both queries. -/
theorem finish_of_names (wellFormed : resolver.WellFormed)
    (named : request.constraint.Names version) (exact localOnly : Bool) (requester : AgentId)
    (localMatch : Option Instance) (outcome : Round.Outcome) (now : Instant) :
    resolver.finish ⟨⟨request, exact, localOnly, requester⟩, localMatch⟩ outcome now =
      resolver.finish ⟨⟨request, false, localOnly, requester⟩, localMatch⟩ outcome now := by
  have later := wellFormed_update wellFormed outcome now
  have lookup (flag : Bool) := remoteMatch_of_names later named flag localOnly requester now
  unfold update at lookup
  simp only [finish, lookup]
  rfl

/-- The first half comes as far, and if it comes to a question, to the same but for the flag. -/
theorem start_of_names (wellFormed : resolver.WellFormed)
    (named : request.constraint.Names version) (exact localOnly busy : Bool) (requester : AgentId)
    (now : Instant) :
    resolver.start ⟨request, exact, localOnly, requester⟩ busy now =
      match resolver.start ⟨request, false, localOnly, requester⟩ busy now with
      | (resolver, .settled result) => (resolver, .settled result)
      | (resolver, .asking envelope waiting) =>
        (resolver, .asking (envelope.withExact exact)
          ⟨⟨request, exact, localOnly, requester⟩, waiting.localMatch⟩) := by
  simp only [start, isUnaddressed_of_names named, localMatch_of_names wellFormed named,
    remoteMatch_of_names wellFormed named, Bool.false_eq_true, if_false]
  cases localOnly with
  | true => rfl
  | false =>
    cases resolver.registry.lookupExact request.name version <;> cases busy <;>
      cases (resolver.cache.bestExact request.name version now).1 <;> rfl

/-- A first half that comes to a question has looked into the cache. -/
theorem start_of_asking {query : Query} {busy : Bool} {now : Instant} {later : Resolver}
    {envelope : Envelope} {waiting : Waiting}
    (asks : resolver.start query busy now = (later, .asking envelope waiting)) :
    later = (resolver.remoteMatch query now).2 ∧ waiting = ⟨query, resolver.localMatch query⟩ := by
  unfold start at asks
  split at asks
  · cases asks
  · split at asks
    · cases asks
    · split at asks
      · cases asks
      · split at asks
        · cases asks
        · rename_i missing
          cases asks
          rw [missing]
          exact ⟨rfl, rfl⟩

/-- The exact resolution is the other one, but for the flag in the question. -/
theorem resolve_of_names (wellFormed : resolver.WellFormed)
    (named : request.constraint.Names version) (exact localOnly busy : Bool) (requester : AgentId)
    (now : Instant) (exchange : Exchange) :
    resolver.resolve ⟨request, exact, localOnly, requester⟩ busy now (fun _ => exchange) =
      let resolution :=
        resolver.resolve ⟨request, false, localOnly, requester⟩ busy now fun _ => exchange
      { resolution with sent := resolution.sent.map (Envelope.withExact exact) } := by
  unfold resolve
  rw [start_of_names wellFormed named]
  cases begun : resolver.start ⟨request, false, localOnly, requester⟩ busy now with
  | mk later progress =>
    cases progress with
    | settled result => rfl
    | asking envelope waiting =>
      obtain ⟨rfl, rfl⟩ := start_of_asking begun
      have later := wellFormed_remoteMatch wellFormed ⟨request, false, localOnly, requester⟩ now
      simp only [finish_of_names later named exact]
      rfl

end Resolver

/-! ### Both answers -/

namespace Responder

/-- A node answers both questions alike. -/
theorem answer_of_names {registry : Registry} (wellFormed : registry.WellFormed)
    {request : Request} {version : Version} (named : request.constraint.Names version)
    (node source : NodeId) (sender : AgentId) (topic : Topic) (exact : Bool) :
    answer registry node
        ⟨sender, source, topic, .request ⟨request.name, request.constraint, exact⟩⟩ =
      answer registry node
        ⟨sender, source, topic, .request ⟨request.name, request.constraint, false⟩⟩ := by
  have served (flag : Bool) : registry.serves ⟨request.name, request.constraint⟩ flag =
      registry.lookupExact request.name version := Registry.serves_of_names wellFormed named flag
  simp only [answer, answerInquiry, Inquiry.request, served]

end Responder

/-! ### The flag does not matter -/

namespace Moment

/-- If the constraint of a request is a version written out, it does not matter whether the request
is exact. Both resolutions have one result, be it an instance or an error with its cause; they leave
the same registry and the same cache, with the same instances evicted and the same containers
pruned, at the same time; and what they send differs in nothing but the flag. Every node answers the
two questions alike. -/
theorem exactness_immaterial {moment : Moment} (reachable : moment.Reachable) {request : Request}
    {version : Version} (named : request.constraint.Names version) (localOnly busy : Bool)
    (requester : AgentId) (outcome : Round.Outcome) (span : Duration) :
    (moment.resolution ⟨request, true, localOnly, requester⟩ busy outcome span).result =
      (moment.resolution ⟨request, false, localOnly, requester⟩ busy outcome span).result ∧
    moment.afterResolution ⟨request, true, localOnly, requester⟩ busy outcome span =
      moment.afterResolution ⟨request, false, localOnly, requester⟩ busy outcome span ∧
    (moment.resolution ⟨request, true, localOnly, requester⟩ busy outcome span).sent =
      (moment.resolution ⟨request, false, localOnly, requester⟩ busy outcome span).sent.map
        (Envelope.withExact true) ∧
    ∀ registry : Registry, registry.Reachable →
      ∀ (node source : NodeId) (sender : AgentId) (topic : Topic),
        Responder.answer registry node
            ⟨sender, source, topic, .request ⟨request.name, request.constraint, true⟩⟩ =
          Responder.answer registry node
            ⟨sender, source, topic, .request ⟨request.name, request.constraint, false⟩⟩ := by
  have same : moment.resolution ⟨request, true, localOnly, requester⟩ busy outcome span = _ :=
    Resolver.resolve_of_names reachable.wellFormed.resolver named true localOnly busy requester
      moment.now ⟨outcome, moment.now.after span⟩
  change _ = Resolver.Resolution.mk
    (moment.resolution ⟨request, false, localOnly, requester⟩ busy outcome span).resolver _
    (moment.resolution ⟨request, false, localOnly, requester⟩ busy outcome span).result at same
  refine ⟨by rw [same], ?_, by rw [same]; rfl, fun registry running node source sender topic =>
    Responder.answer_of_names running.wellFormed named node source sender topic true⟩
  unfold afterResolution
  rw [same]
  simp only [List.isEmpty_map]
  rfl

/-- The oldest greeting, with its version written out. -/
def oldGreeting : Request :=
  ⟨"greeting", .matching (.three 1 0 0)⟩

/-- The exact query, too, drops the old greeting and no other, asks for one, and complains of the
round; and a node on which it runs answers with it. -/
theorem exactness_immaterial_stocked :
    (Cache.stocked.resolution ⟨oldGreeting, true, false, "asker"⟩ false noReplies ⟨7⟩).result =
      .error (.notFound oldGreeting (some (.timedOut 2000))) ∧
    (Cache.stocked.afterResolution ⟨oldGreeting, true, false, "asker"⟩ false noReplies
      ⟨7⟩).resolver.cache.fitting "greeting" .any = [⟨2, 0, 0⟩, ⟨1, 1, 0⟩] ∧
    (Cache.stocked.resolution ⟨oldGreeting, true, false, "asker"⟩ false noReplies ⟨7⟩).sent =
      [Round.envelope (Bytes32.filled 0) "asker" oldGreeting true] ∧
    Responder.answer (Resolver.releasing [0]).registry (Bytes32.filled 7)
        (Round.envelope (Bytes32.filled 0) "asker" oldGreeting true) =
      some (Responder.replyFor (Bytes32.filled 7) (topicFor "greeting") (Resolver.release 0)) := by
  have reachable : Cache.stocked.Reachable := Reachable.after (.start _ _ (by decide)) _
  have running : (Resolver.releasing [0]).registry.Reachable :=
    .register .empty (show Registry.empty.register ⟨"greeting", ⟨1, 0, 0⟩⟩ ⟨0, "greeter"⟩
      Instant.zero = .ok (_, _) from rfl)
  have named : oldGreeting.constraint.Names ⟨1, 0, 0⟩ := Or.inr rfl
  obtain ⟨result, after, sent, answers⟩ :=
    exactness_immaterial reachable named false false "asker" noReplies ⟨7⟩
  refine ⟨result.trans (by rfl), ?_, sent.trans (by rfl), ?_⟩
  · rw [after]
    decide
  · refine (answers _ running _ _ _ _).trans ?_
    exact (Resolver.answer_question _ (by decide) "asker" oldGreeting false).trans (by rfl)

end Moment

end ServiceDiscovery
