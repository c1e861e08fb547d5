/-
This file proves what the parts of a resolution do. A query covers the versions that can answer
it, the pinned one if it is exact and all that fit otherwise; the match on this node is what the
responder would offer, and a lookup among the remote instances finds the fastest fresh instance
of the newest covered version. A resolution goes one of seven ways, and each of them says what
is sent, what is left behind and what comes out.
-/

import ServiceDiscovery.Proofs.Registry
import ServiceDiscovery.Proofs.Round
import ServiceDiscovery.Resolver

namespace ServiceDiscovery.Resolver

/-! ### Covered versions -/

/-- The versions of the requested name that can answer a query. -/
def covers (query : Query) (version : Version) : Bool :=
  match pinned? query with
  | some wanted => version == wanted
  | none => query.request.constraint.fits version

theorem covers_of_pinned {query : Query} {wanted : Version} (pinned : pinned? query = some wanted)
    (version : Version) : covers query version = true ↔ version = wanted := by
  rw [covers, pinned]
  exact beq_iff_eq

theorem covers_of_unpinned {query : Query} (unpinned : pinned? query = none) (version : Version) :
    covers query version = query.request.constraint.fits version := by
  rw [covers, unpinned]

theorem pinned_of_exact {query : Query} (exact : query.exact = true) :
    pinned? query = query.request.constraint.pinned? := by
  rw [pinned?, if_pos exact]

theorem pinned_of_inexact {query : Query} (inexact : query.exact = false) :
    pinned? query = none := by
  rw [pinned?, inexact]
  rfl

theorem isUnaddressed_iff (query : Query) :
    isUnaddressed query = true ↔ query.exact = true ∧ query.request.constraint = .any := by
  rw [isUnaddressed, Bool.and_eq_true]
  cases query.request.constraint <;> simp [Constraint.pinned?]

/-- A query that is exact and addressed pins a version. -/
theorem exists_pinned {query : Query} (addressed : isUnaddressed query = false)
    (exact : query.exact = true) : ∃ wanted, query.request.constraint.pinned? = some wanted := by
  rw [isUnaddressed, exact, Bool.true_and, Option.isNone_eq_false_iff] at addressed
  exact Option.isSome_iff_exists.mp addressed

/-- The covered versions are those that answer the query. -/
theorem covers_iff {query : Query} (addressed : isUnaddressed query = false) (version : Version) :
    covers query version = true ↔
      Registry.Answers query.request query.exact ⟨query.request.name, version⟩ := by
  cases exact : query.exact with
  | true =>
    obtain ⟨wanted, pinned⟩ := exists_pinned addressed exact
    rw [covers_of_pinned ((pinned_of_exact exact).trans pinned)]
    constructor
    · rintro rfl
      exact ⟨rfl, Constraint.fits_of_pinned pinned, fun _ => pinned⟩
    · rintro ⟨_, _, same⟩
      have equal := (same rfl).symm.trans pinned
      exact Option.some.inj equal
  | false =>
    rw [covers_of_unpinned (pinned_of_inexact exact)]
    constructor
    · intro fits
      exact ⟨rfl, fits, fun impossible => absurd impossible Bool.false_ne_true⟩
    · rintro ⟨_, fits, _⟩
      exact fits

/-! ### The match on this node -/

/-- A node finds for itself what it would offer to others. -/
theorem localMatch_eq_serves {query : Query} (addressed : isUnaddressed query = false)
    (resolver : Resolver) :
    resolver.localMatch query = resolver.registry.serves query.request query.exact := by
  unfold localMatch Registry.serves
  cases exact : query.exact with
  | true =>
    obtain ⟨wanted, pinned⟩ := exists_pinned addressed exact
    rw [pinned_of_exact exact, pinned, if_pos rfl]
    rfl
  | false =>
    rw [pinned_of_inexact exact, if_neg Bool.false_ne_true]

/-! ### The match on other nodes -/

/-- The resolver is as its operations leave it. -/
structure WellFormed (resolver : Resolver) : Prop where
  registry : resolver.registry.WellFormed
  cache : resolver.cache.WellFormed

variable {resolver : Resolver} {query : Query} {now : Instant}

/-- A lookup changes nothing but the cache. -/
theorem remoteMatch_frame (resolver : Resolver) (query : Query) (now : Instant) :
    (resolver.remoteMatch query now).2.node = resolver.node ∧
      (resolver.remoteMatch query now).2.registry = resolver.registry ∧
      (resolver.remoteMatch query now).2.cache.lifetime = resolver.cache.lifetime := by
  unfold remoteMatch
  split
  · refine ⟨rfl, rfl, ?_⟩
    exact Cache.lifetime_bestExact _ _ _ _
  · refine ⟨rfl, rfl, ?_⟩
    exact Cache.lifetime_bestCompatible _ _ _ _

theorem wellFormed_remoteMatch (wellFormed : resolver.WellFormed) (query : Query)
    (now : Instant) : (resolver.remoteMatch query now).2.WellFormed := by
  unfold remoteMatch
  split
  · exact ⟨wellFormed.registry, Cache.wellFormed_bestExact wellFormed.cache _ _ _⟩
  · exact ⟨wellFormed.registry, Cache.wellFormed_bestCompatible wellFormed.cache _ _ _⟩

/-- A lookup drops the outdated instances of the covered versions and keeps everything else. -/
theorem stored_remoteMatch (wellFormed : resolver.WellFormed) (query : Query) (now : Instant)
    (name : String) (version : Version) :
    (resolver.remoteMatch query now).2.cache.stored name version =
      if query.request.name = name ∧ covers query version = true then
        Cache.fresh resolver.cache.lifetime now (resolver.cache.stored name version)
      else resolver.cache.stored name version := by
  unfold remoteMatch
  split
  · rename_i wanted pinned
    have same : covers query version = true ↔ wanted = version :=
      (covers_of_pinned pinned version).trans eq_comm
    simp only [same]
    exact Cache.stored_bestExact _ _ _ _ _ _
  · rename_i unpinned
    simp only [covers_of_unpinned unpinned]
    exact Cache.stored_bestCompatible wellFormed.cache _ _ _ _ _

theorem remoteMatch_eq_none_iff (wellFormed : resolver.WellFormed) (query : Query)
    (now : Instant) :
    (resolver.remoteMatch query now).1 = none ↔
      ∀ version, covers query version = true →
        Cache.fresh resolver.cache.lifetime now
          (resolver.cache.stored query.request.name version) = [] := by
  unfold remoteMatch
  split
  · rename_i wanted pinned
    show (resolver.cache.bestExact _ _ _).1 = none ↔ _
    rw [Cache.fst_bestExact, Cache.fastest_eq_none_iff]
    constructor
    · intro empty version covered
      rwa [(covers_of_pinned pinned version).mp covered]
    · intro empty
      exact empty wanted ((covers_of_pinned pinned wanted).mpr rfl)
  · rename_i unpinned
    simp only [covers_of_unpinned unpinned]
    exact Cache.bestCompatible_eq_none_iff wellFormed.cache _ _ _

/-- A lookup finds the fastest fresh instance of the newest covered version that has one. -/
theorem remoteMatch_eq_some_iff (wellFormed : resolver.WellFormed) (query : Query)
    (now : Instant) (best : Instance) :
    (resolver.remoteMatch query now).1 = some best ↔
      ∃ version, covers query version = true ∧
        Cache.fastest? (Cache.fresh resolver.cache.lifetime now
          (resolver.cache.stored query.request.name version)) = some best ∧
        ∀ newer, covers query newer = true → version.place < newer.place →
          Cache.fresh resolver.cache.lifetime now
            (resolver.cache.stored query.request.name newer) = [] := by
  unfold remoteMatch
  split
  · rename_i wanted pinned
    show (resolver.cache.bestExact _ _ _).1 = some best ↔ _
    rw [Cache.fst_bestExact]
    constructor
    · intro found
      refine ⟨wanted, (covers_of_pinned pinned wanted).mpr rfl, found, ?_⟩
      intro newer covered later
      rw [(covers_of_pinned pinned newer).mp covered] at later
      exact absurd later (Nat.lt_irrefl _)
    · rintro ⟨version, covered, found, _⟩
      rwa [(covers_of_pinned pinned version).mp covered] at found
  · rename_i unpinned
    simp only [covers_of_unpinned unpinned]
    exact Cache.bestCompatible_eq_some_iff wellFormed.cache _ _ _ _

/-- What a lookup finds is fresh, and stored after it under its own identity. -/
theorem remoteMatch_sound (wellFormed : resolver.WellFormed) {best : Instance}
    (found : (resolver.remoteMatch query now).1 = some best) :
    best.identity.name = query.request.name ∧ covers query best.identity.version = true ∧
      best.isHere = false ∧ best.isOutdated resolver.cache.lifetime now = false ∧
      best ∈ (resolver.remoteMatch query now).2.cache.stored best.identity.name
        best.identity.version := by
  obtain ⟨version, covered, fastest, _⟩ :=
    (remoteMatch_eq_some_iff wellFormed query now best).mp found
  have member := (Cache.fastest_least fastest).1
  obtain ⟨stored, fresh⟩ := Cache.mem_fresh.mp member
  have placed := wellFormed.cache.placed query.request.name version
  have identity := placed.identity best stored
  rw [stored_remoteMatch wellFormed, identity, if_pos ⟨rfl, covered⟩]
  exact ⟨rfl, covered, placed.remote best stored, fresh, member⟩

end ServiceDiscovery.Resolver
