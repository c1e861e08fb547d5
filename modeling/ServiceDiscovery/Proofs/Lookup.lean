/-
This file proves what a lookup does to a cache. Looking up one version or all versions that fit
is the same kind of change: the outdated instances of the covered versions of one name are
evicted, and with them the containers that this leaves empty. Evictions of one name add up. So a
lookup of all versions that fit is the lookups of each of them, one after the other.
-/

import ServiceDiscovery.Proofs.Removal

namespace ServiceDiscovery

/-! ### Leaving out what is empty -/

namespace Slots

/-- Leaving out the empty slots, of which there is only the one that was just emptied. -/
theorem filter_replace_of_empty {Key Item : Type} [DecidableEq Key] (key : Key)
    {slots : List (Key × List Item)} (filled : ∀ slot ∈ slots, slot.2 ≠ []) :
    ((replace key [] slots).filter fun slot => !slot.2.isEmpty) =
      slots.filter fun slot => slot.1 != key := by
  induction slots with
  | nil => rfl
  | cons slot others inductionHypothesis =>
    obtain ⟨own, rest⟩ := List.forall_mem_cons.mp filled
    have step := inductionHypothesis rest
    unfold replace at step ⊢
    rw [List.map_cons]
    by_cases here : slot.1 = key
    · rw [if_pos here, List.filter_cons_of_neg (by simp), step,
        List.filter_cons_of_neg (by simp [here])]
    · rw [if_neg here, List.filter_cons_of_pos (by simp [own]), step,
        List.filter_cons_of_pos (by simp [here])]

/-- Changing one slot, or leaving it out if that empties it, is editing all of them with an edit
that concerns only this one, and leaving out what is empty. -/
theorem settled_eq {Key Item : Type} [DecidableEq Key] {key : Key} {slots : List (Key × List Item)}
    (filled : ∀ slot ∈ slots, slot.2 ≠ []) {next : List Item} {edit : Key × List Item → List Item}
    (own : ∀ slot ∈ slots, slot.1 = key → edit slot = next)
    (others : ∀ slot ∈ slots, slot.1 ≠ key → edit slot = slot.2) :
    (if next.isEmpty then slots.filter fun slot => slot.1 != key else replace key next slots) =
      (slots.map fun slot => (slot.1, edit slot)).filter fun slot => !slot.2.isEmpty := by
  have edited : (slots.map fun slot => (slot.1, edit slot)) = replace key next slots := by
    refine List.map_congr_left fun slot member => ?_
    by_cases here : slot.1 = key
    · rw [if_pos here, own slot member here, here]
    · rw [if_neg here, others slot member here]
  rw [edited]
  split
  · rename_i gone
    rw [List.isEmpty_iff.mp gone]
    exact (filter_replace_of_empty key filled).symm
  · rename_i some
    refine (List.filter_eq_self.mpr fun slot member => ?_).symm
    obtain ⟨former, stored, rfl⟩ := List.mem_map.mp member
    split
    · exact (Bool.not_eq_true _).mp some ▸ rfl
    · simp [filled former stored]

end Slots

namespace Cache

theorem settleVersion_eq {shelf : Shelf (List Instance)} (ascending : shelf.Ascending)
    (filled : ∀ slot ∈ shelf, slot.2 ≠ []) {version : Version} {instances kept : List Instance}
    (known : (version, instances) ∈ shelf) {edit : Version × List Instance → List Instance}
    (own : edit (version, instances) = kept)
    (others : ∀ slot ∈ shelf, slot.1 ≠ version → edit slot = slot.2) :
    settleVersion shelf version kept =
      (shelf.map fun slot => (slot.1, edit slot)).filter fun slot => !slot.2.isEmpty := by
  unfold settleVersion
  rw [Shelf.put_of_known ascending known]
  refine Slots.settled_eq filled (fun slot member here => ?_) others
  obtain ⟨other, entry⟩ := slot
  obtain rfl : other = version := here
  obtain rfl : entry = instances := Shelf.entry_eq ascending known member
  exact own

end Cache

/-! ### Evicting -/

namespace Cache

/-- The instances of a version that are left by a lookup, which may or may not cover it. -/
def spared (lifetime : Duration) (now : Instant) (covered : Bool) (instances : List Instance) :
    List Instance :=
  if covered then fresh lifetime now instances else instances

/-- A shelf without the outdated instances of the covered versions, and without the versions that
have no instances. -/
def evicted (lifetime : Duration) (now : Instant) (covers : Version → Bool)
    (shelf : Shelf (List Instance)) : Shelf (List Instance) :=
  (shelf.map fun slot => (slot.1, spared lifetime now (covers slot.1) slot.2)).filter
    fun slot => !slot.2.isEmpty

/-- A cache without the outdated instances of the covered versions of a name. -/
def evict (cache : Cache) (name : String) (covers : Version → Bool) (now : Instant) : Cache :=
  ⟨cache.lifetime,
    cache.catalog.settle name (evicted cache.lifetime now covers (cache.catalog.shelf name))⟩

variable {cache : Cache} {lifetime : Duration} {now : Instant}

theorem spared_nil (lifetime : Duration) (now : Instant) (covered : Bool) :
    spared lifetime now covered [] = [] := by
  cases covered <;> rfl

theorem spared_spared (lifetime : Duration) (now : Instant) (first second : Bool)
    (instances : List Instance) :
    spared lifetime now second (spared lifetime now first instances) =
      spared lifetime now (first || second) instances := by
  have again : fresh lifetime now (fresh lifetime now instances) =
      fresh lifetime now instances := by
    unfold fresh
    rw [List.filter_filter]
    exact List.filter_congr fun occurrence _ => Bool.and_self _
  cases first with
  | false => rfl
  | true =>
    cases second with
    | false => rfl
    | true => exact again

theorem evicted_cons (covers : Version → Bool) (slot : Version × List Instance)
    (others : Shelf (List Instance)) :
    evicted lifetime now covers (slot :: others) =
      if (spared lifetime now (covers slot.1) slot.2) = [] then
        evicted lifetime now covers others
      else (slot.1, spared lifetime now (covers slot.1) slot.2) ::
        evicted lifetime now covers others := by
  rw [evicted, List.map_cons]
  by_cases gone : spared lifetime now (covers slot.1) slot.2 = []
  · rw [if_pos gone]
    exact List.filter_cons_of_neg (by simp [gone])
  · rw [if_neg gone]
    exact List.filter_cons_of_pos (by simp [gone])

theorem evicted_congr {covers others : Version → Bool} {shelf : Shelf (List Instance)}
    (agree : ∀ slot ∈ shelf, covers slot.1 = others slot.1) :
    evicted lifetime now covers shelf = evicted lifetime now others shelf := by
  unfold evicted
  rw [List.map_congr_left fun slot member => by rw [agree slot member]]

theorem evicted_of_uncovered {covers : Version → Bool} {shelf : Shelf (List Instance)}
    (filled : ∀ slot ∈ shelf, slot.2 ≠ []) (uncovered : ∀ slot ∈ shelf, covers slot.1 = false) :
    evicted lifetime now covers shelf = shelf := by
  have kept : (shelf.map fun slot => (slot.1, spared lifetime now (covers slot.1) slot.2)) =
      shelf := by
    refine (List.map_congr_left fun slot member => ?_).trans (List.map_id shelf)
    rw [uncovered slot member]
    rfl
  rw [evicted, kept]
  exact List.filter_eq_self.mpr fun slot member => by simp [filled slot member]

/-- What one eviction leaves and another one leaves of that is what both leave at once. -/
theorem evicted_evicted (first second : Version → Bool) (shelf : Shelf (List Instance)) :
    evicted lifetime now second (evicted lifetime now first shelf) =
      evicted lifetime now (fun version => first version || second version) shelf := by
  induction shelf with
  | nil => rfl
  | cons slot others inductionHypothesis =>
    have twice := spared_spared lifetime now (first slot.1) (second slot.1) slot.2
    rw [evicted_cons first, evicted_cons fun version => first version || second version]
    simp only [← twice, ← inductionHypothesis]
    split
    · rename_i gone
      rw [gone, spared_nil, if_pos rfl]
    · exact evicted_cons second _ _

theorem sweep_eq (constraint : Constraint) (shelf : Shelf (List Instance)) :
    sweep lifetime now constraint shelf = evicted lifetime now constraint.fits shelf := by
  refine congrArg (List.filter _) (List.map_congr_left fun slot _ => ?_)
  unfold spared
  split <;> rfl

/-- Settling the fresh instances of one version is evicting its outdated ones. -/
theorem settleVersion_fresh {shelf : Shelf (List Instance)} (ascending : shelf.Ascending)
    (filled : ∀ slot ∈ shelf, slot.2 ≠ []) {version : Version} {instances : List Instance}
    (known : (version, instances) ∈ shelf) :
    settleVersion shelf version (fresh lifetime now instances) =
      evicted lifetime now (· == version) shelf := by
  refine settleVersion_eq ascending filled known ?_ fun slot _ different => ?_
  · show spared lifetime now (version == version) instances = _
    rw [beq_self_eq_true]
    rfl
  · show spared lifetime now (slot.1 == version) slot.2 = _
    rw [beq_eq_false_iff_ne.mpr different]
    rfl

/-! ### Lookups evict -/

theorem evict_of_uncovered (wellFormed : cache.WellFormed) {name : String}
    {covers : Version → Bool}
    (uncovered : ∀ slot ∈ cache.catalog.shelf name, covers slot.1 = false) (now : Instant) :
    cache.evict name covers now = cache := by
  have filled : ∀ slot ∈ cache.catalog.shelf name, slot.2 ≠ [] := fun slot member =>
    (wellFormed.entries_shelf name slot member).1
  rw [evict, evicted_of_uncovered filled uncovered, wellFormed.settle_self]

theorem evict_congr {name : String} {covers others : Version → Bool}
    (agree : ∀ slot ∈ cache.catalog.shelf name, covers slot.1 = others slot.1) (now : Instant) :
    cache.evict name covers now = cache.evict name others now := by
  rw [evict, evicted_congr agree, evict]

/-- Evictions of one name add up. -/
theorem evict_evict (cache : Cache) (name : String) (first second : Version → Bool)
    (now : Instant) :
    (cache.evict name first now).evict name second now =
      cache.evict name (fun version => first version || second version) now := by
  unfold evict
  simp only
  rw [Catalog.shelf_settle, if_pos rfl, Catalog.settle_settle, evicted_evicted]
  intro nothing
  rw [nothing]
  rfl

/-- A lookup of one version finds the fastest of its fresh instances and evicts the others. -/
theorem bestExact_eq (wellFormed : cache.WellFormed) (name : String) (version : Version)
    (now : Instant) :
    cache.bestExact name version now =
      (fastest? (fresh cache.lifetime now (cache.stored name version)),
        cache.evict name (· == version) now) := by
  refine Prod.ext (fst_bestExact cache name version now) ?_
  unfold bestExact
  split
  · rename_i missing
    refine (evict_of_uncovered wellFormed (fun slot member => ?_) now).symm
    refine beq_eq_false_iff_ne.mpr ?_
    rintro rfl
    rw [Shelf.get_of_mem (wellFormed.ascending_shelf name) member] at missing
    cases missing
  · rename_i instances found
    show cache.keeping name version _ = _
    rw [keeping, settleVersion_fresh (wellFormed.ascending_shelf name)
      (fun slot member => (wellFormed.entries_shelf name slot member).1) (Shelf.mem_of_get found)]
    rfl

theorem bestCompatible_eq (wellFormed : cache.WellFormed) (name : String)
    (constraint : Constraint) (now : Instant) :
    cache.bestCompatible name constraint now =
      (bestOf cache.lifetime now constraint (cache.catalog.shelf name),
        cache.evict name constraint.fits now) := by
  refine Prod.ext (fst_bestCompatible cache name constraint now) ?_
  unfold bestCompatible
  split
  · rename_i missing
    refine (evict_of_uncovered wellFormed (fun slot member => ?_) now).symm
    rw [(wellFormed.shelf_eq_nil_iff name).mpr missing] at member
    cases member
  · rename_i shelf found
    rw [evict, Catalog.shelf, found, ← sweep_eq]
    rfl

theorem stored_evict (wellFormed : cache.WellFormed) (name : String) (version other : Version)
    (now : Instant) :
    (cache.evict name (· == version) now).stored name other =
      spared cache.lifetime now (other == version) (cache.stored name other) := by
  have left := stored_bestExact cache name version now name other
  rw [bestExact_eq wellFormed] at left
  refine left.trans (if_congr ?_ rfl rfl)
  rw [and_iff_right rfl, beq_iff_eq, eq_comm]

theorem wellFormed_evict (wellFormed : cache.WellFormed) (name : String) (version : Version)
    (now : Instant) : (cache.evict name (· == version) now).WellFormed := by
  have kept := wellFormed_bestExact wellFormed name version now
  rwa [bestExact_eq wellFormed] at kept

/-! ### One version after the other -/

/-- Looks up some versions of a name one after the other, all of them; what is found first is
the result. -/
def walk (name : String) (now : Instant) : Cache → List Version → Option Instance × Cache
  | cache, [] => (none, cache)
  | cache, version :: others =>
    match cache.bestExact name version now with
    | (found, cache) =>
      match walk name now cache others with
      | (later, cache) => (found.or later, cache)

theorem walk_cons (name : String) (now : Instant) (cache : Cache) (version : Version)
    (others : List Version) :
    walk name now cache (version :: others) =
      ((cache.bestExact name version now).1.or
          (walk name now (cache.bestExact name version now).2 others).1,
        (walk name now (cache.bestExact name version now).2 others).2) :=
  rfl

/-- The cache is left by a walk as by one eviction of all its versions, and what is found is the
fastest fresh instance of the first of them that has one. -/
theorem walk_eq (wellFormed : cache.WellFormed) (name : String) (now : Instant)
    (versions : List Version) :
    walk name now cache versions =
      (versions.findSome? fun version =>
          fastest? (fresh cache.lifetime now (cache.stored name version)),
        cache.evict name versions.contains now) := by
  induction versions generalizing cache with
  | nil =>
    exact Prod.ext rfl (evict_of_uncovered wellFormed (fun _ _ => rfl) now).symm
  | cons version others inductionHypothesis =>
    rw [walk_cons, bestExact_eq wellFormed,
      inductionHypothesis (wellFormed_evict wellFormed name version now), evict_evict,
      List.findSome?_cons]
    refine Prod.ext ?_ ?_
    · -- Whatever was evicted already was not fresh, so later finds are the same.
      have same (other : Version) :
          fresh cache.lifetime now ((cache.evict name (· == version) now).stored name other) =
            fresh cache.lifetime now (cache.stored name other) := by
        rw [stored_evict wellFormed]
        exact (spared_spared cache.lifetime now _ true _).trans (by rw [Bool.or_true]; rfl)
      show (fastest? _).or (others.findSome? fun other => fastest? (fresh cache.lifetime now _)) = _
      simp only [same]
      cases fastest? (fresh cache.lifetime now (cache.stored name version)) <;> rfl
    · refine congrArg (cache.evict name · now) (funext fun other => ?_)
      rw [List.contains_cons]

/-- The stored versions of a name that fit, newest first. -/
def fitting (cache : Cache) (name : String) (constraint : Constraint) : List Version :=
  (cache.catalog.shelf name).versions.filter constraint.fits

theorem contains_iff_exists_mem (wellFormed : cache.WellFormed) {name : String}
    {version : Version} :
    cache.contains name version = true ↔
      ∃ instances, (version, instances) ∈ cache.catalog.shelf name := by
  rw [contains, Option.isSome_iff_exists]
  exact exists_congr fun instances =>
    ⟨Shelf.mem_of_get, Shelf.get_of_mem (wellFormed.ascending_shelf name)⟩

theorem mem_fitting_iff (wellFormed : cache.WellFormed) {name : String}
    {constraint : Constraint} {version : Version} :
    version ∈ cache.fitting name constraint ↔
      cache.contains name version = true ∧ constraint.fits version = true := by
  rw [contains_iff_exists_mem wellFormed]
  simp only [fitting, Shelf.versions, List.mem_filter, List.mem_reverse, List.mem_map,
    Prod.exists, exists_and_right, exists_eq_right]

theorem pairwise_fitting (wellFormed : cache.WellFormed) (name : String)
    (constraint : Constraint) :
    (cache.fitting name constraint).Pairwise fun newer older => older.compare newer = .lt := by
  refine List.Pairwise.filter _ (List.pairwise_reverse.mpr (List.pairwise_map.mpr ?_))
  exact (wellFormed.ascending_shelf name).imp Version.compare_eq_lt_iff.mpr

theorem bestOf_eq_findSome (wellFormed : cache.WellFormed) (name : String)
    (constraint : Constraint) (now : Instant) :
    bestOf cache.lifetime now constraint (cache.catalog.shelf name) =
      (cache.fitting name constraint).findSome? fun version =>
        fastest? (fresh cache.lifetime now (cache.stored name version)) := by
  unfold bestOf fitting Shelf.versions
  rw [← List.head?_filterMap, ← List.head?_filterMap, List.filterMap_filter, ← List.map_reverse,
    List.filterMap_map]
  refine congrArg List.head? (List.filterMap_congr fun slot member => ?_)
  have found := Shelf.get_of_mem (wellFormed.ascending_shelf name) (List.mem_reverse.mp member)
  rw [Function.comp_apply, stored_of_get found]

/-- A lookup of all versions that fit is a walk over those that are stored, newest first. -/
theorem bestCompatible_eq_walk (wellFormed : cache.WellFormed) (name : String)
    (constraint : Constraint) (now : Instant) :
    cache.bestCompatible name constraint now =
      walk name now cache (cache.fitting name constraint) := by
  rw [bestCompatible_eq wellFormed, walk_eq wellFormed, bestOf_eq_findSome wellFormed]
  refine Prod.ext rfl (evict_congr (fun slot member => ?_) now)
  rw [Bool.eq_iff_iff, List.contains_iff_mem, mem_fitting_iff wellFormed,
    contains_iff_exists_mem wellFormed]
  exact (and_iff_right ⟨slot.2, member⟩).symm

/-! ### What a lookup leaves alone -/

/-- A well-formed cache has a version exactly if instances of it are stored. -/
theorem get_eq_of_stored (wellFormed : cache.WellFormed) (name : String) (version : Version) :
    (cache.catalog.shelf name).get? version =
      if cache.stored name version = [] then none else some (cache.stored name version) := by
  cases found : (cache.catalog.shelf name).get? version with
  | none => rw [stored_of_get_none found, if_pos rfl]
  | some instances => rw [stored_of_get found, if_neg (wellFormed.entry_of_get found).1]

theorem contains_iff_stored (wellFormed : cache.WellFormed) {name : String} {version : Version} :
    cache.contains name version = true ↔ cache.stored name version ≠ [] := by
  rw [contains, get_eq_of_stored wellFormed]
  split
  · rename_i nothing
    exact iff_of_false Bool.false_ne_true (not_not_intro nothing)
  · rename_i some
    exact iff_of_true rfl some

theorem get_congr {other : Cache} (wellFormed : cache.WellFormed) (also : other.WellFormed)
    {name : String} {version : Version}
    (same : cache.stored name version = other.stored name version) :
    (cache.catalog.shelf name).get? version = (other.catalog.shelf name).get? version := by
  rw [get_eq_of_stored wellFormed, get_eq_of_stored also, same]

/-- A name is there exactly if one of its versions is. -/
theorem get_eq_none_iff (wellFormed : cache.WellFormed) (name : String) :
    cache.catalog.get? name = none ↔ ∀ version, cache.stored name version = [] := by
  rw [← wellFormed.shelf_eq_nil_iff name]
  constructor
  · intro empty version
    rw [stored, empty]
    rfl
  · intro nothing
    refine List.eq_nil_iff_forall_not_mem.mpr fun slot member => ?_
    refine (wellFormed.entries_shelf name slot member).1 ?_
    rw [← stored_of_get (Shelf.get_of_mem (wellFormed.ascending_shelf name) member)]
    exact nothing slot.1

theorem get_evict_of_ne (cache : Cache) {name other : String} (different : other ≠ name)
    (covers : Version → Bool) (now : Instant) :
    (cache.evict name covers now).catalog.get? other = cache.catalog.get? other :=
  Catalog.get_settle_of_ne cache.catalog different _

/-! ### What a lookup of one version finds -/

/-- The instance is fresh; among those that are, the ones before it are slower and the ones
after it are no faster. -/
def Leads (lifetime : Duration) (now : Instant) (instances : List Instance) (best : Instance) :
    Prop :=
  ∃ before after, instances = before ++ best :: after ∧
    best.isOutdated lifetime now = false ∧
    (∀ other ∈ before, other.isOutdated lifetime now = false →
      best.responseTime < other.responseTime) ∧
    ∀ other ∈ after, other.isOutdated lifetime now = false →
      best.responseTime ≤ other.responseTime

theorem forall_mem_fresh {lifetime : Duration} {now : Instant} {instances : List Instance}
    {holds : Instance → Prop} :
    (∀ occurrence ∈ fresh lifetime now instances, holds occurrence) ↔
      ∀ occurrence ∈ instances, occurrence.isOutdated lifetime now = false →
        holds occurrence := by
  simp only [mem_fresh, and_imp]

theorem fastest_fresh_eq_some_iff {instances : List Instance} {best : Instance} :
    fastest? (fresh lifetime now instances) = some best ↔ Leads lifetime now instances best := by
  rw [fastest_eq_some_iff]
  constructor
  · rintro ⟨faster, notFaster, split, slower, others⟩
    obtain ⟨before, rest, rfl, rfl, tail⟩ := List.filter_eq_append_iff.mp split
    obtain ⟨outdated, after, rfl, old, kept, rfl⟩ := List.filter_eq_cons_iff.mp tail
    refine ⟨before ++ outdated, after, by rw [List.append_assoc], Bool.not_eq_true' _ ▸ kept,
      List.forall_mem_append.mpr ⟨forall_mem_fresh.mp slower, fun other member isFresh => ?_⟩,
      forall_mem_fresh.mp others⟩
    exact absurd (Bool.not_eq_true' _ ▸ isFresh) (old other member)
  · rintro ⟨before, after, rfl, kept, slower, others⟩
    refine ⟨fresh lifetime now before, fresh lifetime now after, ?_, forall_mem_fresh.mpr slower,
      forall_mem_fresh.mpr others⟩
    rw [fresh, List.filter_append, List.filter_cons_of_pos (by rw [kept]; rfl)]
    rfl

theorem fresh_ne_nil_iff {instances : List Instance} :
    fresh lifetime now instances ≠ [] ↔
      ∃ occurrence ∈ instances, occurrence.isOutdated lifetime now = false := by
  rw [ne_eq, List.eq_nil_iff_forall_not_mem, not_forall_not]
  exact exists_congr fun occurrence => mem_fresh

/-! ### Every cache that a node comes to have -/

/-- A node can come to have the cache. -/
def Arises (cache : Cache) : Prop :=
  ∃ moment : Moment, moment.Reachable ∧ moment.resolver.cache = cache

theorem Arises.wellFormed (arises : cache.Arises) : cache.WellFormed := by
  obtain ⟨moment, reachable, rfl⟩ := arises
  exact reachable.wellFormed.resolver.cache

/-- Looking up all versions that fit finds and leaves what looking up each stored one of them
does, from the newest to the oldest and without stopping, if what is found first counts. The
versions that do not fit and all other names stay as they are, however old their instances. -/
theorem lookup_walks (arises : cache.Arises) (name : String) (constraint : Constraint)
    (now : Instant) :
    cache.bestCompatible name constraint now =
      walk name now cache (cache.fitting name constraint) ∧
    (∀ version, version ∈ cache.fitting name constraint ↔
      cache.contains name version = true ∧ constraint.fits version = true) ∧
    ((cache.fitting name constraint).Pairwise fun newer older => older.compare newer = .lt) ∧
    (∀ version, constraint.fits version = false →
      ((cache.bestCompatible name constraint now).2.catalog.shelf name).get? version =
        (cache.catalog.shelf name).get? version) ∧
    ∀ other, other ≠ name →
      (cache.bestCompatible name constraint now).2.catalog.get? other =
        cache.catalog.get? other := by
  have wellFormed := arises.wellFormed
  have after := wellFormed_bestCompatible wellFormed name constraint now
  refine ⟨bestCompatible_eq_walk wellFormed name constraint now,
    fun version => mem_fitting_iff wellFormed, pairwise_fitting wellFormed name constraint,
    fun version unfit => get_congr after wellFormed ?_, fun other different => ?_⟩
  · rw [stored_bestCompatible wellFormed, if_neg]
    rintro ⟨_, fits⟩
    rw [unfit] at fits
    cases fits
  · rw [bestCompatible_eq wellFormed]
    exact get_evict_of_ne cache different _ now

/-- A service on another node, as it is cached from there. -/
def offered (name : String) (version : Version) (node : UInt8) (rank : Nat) : Instance :=
  Instance.remote ⟨name, version⟩ "keeper" (Bytes32.filled node) rank Instant.zero

/-- Three versions of a service and one of another. Of the middle one two instances of one rank
are seen again, but not the faster one between them; all others are outdated too. -/
def stocked : Moment :=
  Moment.asker.after [.add (offered "greeting" ⟨1, 0, 0⟩ 1 1),
    .add (offered "greeting" ⟨1, 1, 0⟩ 2 7), .add (offered "greeting" ⟨1, 1, 0⟩ 3 1),
    .add (offered "greeting" ⟨1, 1, 0⟩ 4 7), .add (offered "greeting" ⟨2, 0, 0⟩ 5 1),
    .add (offered "farewell" ⟨1, 0, 0⟩ 6 1), .wait ⟨4⟩,
    .add (offered "greeting" ⟨1, 1, 0⟩ 2 9), .add (offered "greeting" ⟨1, 1, 0⟩ 4 9), .wait ⟨4⟩]

theorem arises_stocked : stocked.resolver.cache.Arises :=
  ⟨stocked, Moment.Reachable.after (.start _ _ (by decide)) _, rfl⟩

/-- The walk goes on to the older version after its find, so that this version is gone; the
outdated versions and names that are not asked for stay. -/
theorem lookup_walks_stocked :
    stocked.resolver.cache.fitting "greeting" (.matching (.one 1)) = [⟨1, 1, 0⟩, ⟨1, 0, 0⟩] ∧
    stocked.resolver.cache.bestCompatible "greeting" (.matching (.one 1)) stocked.now =
      walk "greeting" stocked.now stocked.resolver.cache [⟨1, 1, 0⟩, ⟨1, 0, 0⟩] ∧
    (stocked.resolver.cache.bestCompatible "greeting" (.matching (.one 1)) stocked.now).1 =
      some ((offered "greeting" ⟨1, 1, 0⟩ 2 7).touch ⟨4⟩) ∧
    (stocked.resolver.cache.bestCompatible "greeting" (.matching (.one 1)) stocked.now).2.contains
      "greeting" ⟨1, 0, 0⟩ = false ∧
    ((stocked.resolver.cache.bestCompatible "greeting" (.matching (.one 1))
      stocked.now).2.catalog.shelf "greeting").get? ⟨2, 0, 0⟩ =
        some [offered "greeting" ⟨2, 0, 0⟩ 5 1] ∧
    (stocked.resolver.cache.bestCompatible "greeting" (.matching (.one 1))
      stocked.now).2.catalog.get? "farewell" =
        some [(⟨1, 0, 0⟩, [offered "farewell" ⟨1, 0, 0⟩ 6 1])] := by
  obtain ⟨walks, _, _, versions, names⟩ :=
    lookup_walks arises_stocked "greeting" (.matching (.one 1)) stocked.now
  have fitting : stocked.resolver.cache.fitting "greeting" (.matching (.one 1)) =
      [⟨1, 1, 0⟩, ⟨1, 0, 0⟩] := by
    decide
  rw [fitting] at walks
  exact ⟨fitting, walks, by decide, by decide, (versions ⟨2, 0, 0⟩ (by decide)).trans (by decide),
    (names "farewell" (by decide)).trans (by decide)⟩

/-- Looking up one version finds something if and only if a fresh instance of it is stored, and
then the fastest of them, the first of several. Of the version exactly the fresh instances are
left, as they were and in their order; the version is gone if there are none, and the name if no
other version of it is left. Everything else is as it was, and looking the version up again at
the same moment finds the same and changes nothing. -/
theorem lookup_evicts (arises : cache.Arises) (name : String) (version : Version)
    (now : Instant) :
    ((∃ best, (cache.bestExact name version now).1 = some best) ↔
      ∃ occurrence ∈ cache.stored name version,
        occurrence.isOutdated cache.lifetime now = false) ∧
    (∀ best, (cache.bestExact name version now).1 = some best ↔
      Leads cache.lifetime now (cache.stored name version) best) ∧
    (cache.bestExact name version now).2.stored name version =
      fresh cache.lifetime now (cache.stored name version) ∧
    ((cache.bestExact name version now).2.contains name version = true ↔
      fresh cache.lifetime now (cache.stored name version) ≠ []) ∧
    ((cache.bestExact name version now).2.catalog.get? name = none ↔
      fresh cache.lifetime now (cache.stored name version) = [] ∧
        ∀ other, other ≠ version → cache.contains name other = false) ∧
    (∀ other, other ≠ version →
      ((cache.bestExact name version now).2.catalog.shelf name).get? other =
        (cache.catalog.shelf name).get? other) ∧
    (∀ other, other ≠ name →
      (cache.bestExact name version now).2.catalog.get? other = cache.catalog.get? other) ∧
    (cache.bestExact name version now).2.bestExact name version now =
      cache.bestExact name version now := by
  have wellFormed := arises.wellFormed
  have after := wellFormed_bestExact wellFormed name version now
  have kept : (cache.bestExact name version now).2.stored name version =
      fresh cache.lifetime now (cache.stored name version) :=
    (stored_bestExact cache name version now name version).trans (if_pos ⟨rfl, rfl⟩)
  have others {other : Version} (different : other ≠ version) :
      (cache.bestExact name version now).2.stored name other = cache.stored name other :=
    (stored_bestExact cache name version now name other).trans
      (if_neg fun both => different both.2.symm)
  have found := fst_bestExact cache name version now
  refine ⟨?_, fun best => ?_, kept, ?_, ?_, fun other different => ?_, fun other different => ?_,
    ?_⟩
  · rw [found, ← fresh_ne_nil_iff, ne_eq, ← fastest_eq_none_iff, ← ne_eq,
      Option.ne_none_iff_exists']
  · rw [found, fastest_fresh_eq_some_iff]
  · rw [contains_iff_stored after, kept]
  · rw [get_eq_none_iff after]
    constructor
    · intro nothing
      refine ⟨kept.symm.trans (nothing version), fun other different => ?_⟩
      refine (Bool.not_eq_true _).mp fun some => (contains_iff_stored wellFormed).mp some ?_
      exact (others different).symm.trans (nothing other)
    · rintro ⟨nothing, missing⟩ other
      by_cases same : other = version
      · rw [same, kept, nothing]
      · rw [others same]
        refine not_not.mp fun some => ?_
        exact Bool.false_ne_true
          ((missing other same).symm.trans ((contains_iff_stored wellFormed).mpr some))
  · exact get_congr after wellFormed (others different)
  · rw [bestExact_eq wellFormed]
    exact get_evict_of_ne cache different _ now
  · rw [bestExact_eq after, kept, lifetime_bestExact, bestExact_eq wellFormed, evict_evict]
    refine Prod.ext ?_ ?_
    · exact congrArg fastest? (spared_spared cache.lifetime now true true _)
    · exact congrArg (cache.evict name · now) (funext fun other => Bool.or_self _)

/-- The faster instance is outdated; of the two others, which are equally fast, the first is
found, and both are left. -/
theorem lookup_evicts_stocked :
    Leads ⟨5⟩ stocked.now (stocked.resolver.cache.stored "greeting" ⟨1, 1, 0⟩)
      ((offered "greeting" ⟨1, 1, 0⟩ 2 7).touch ⟨4⟩) ∧
    (stocked.resolver.cache.bestExact "greeting" ⟨1, 1, 0⟩ stocked.now).2.stored "greeting"
      ⟨1, 1, 0⟩ = [(offered "greeting" ⟨1, 1, 0⟩ 2 7).touch ⟨4⟩,
        (offered "greeting" ⟨1, 1, 0⟩ 4 7).touch ⟨4⟩] ∧
    ((stocked.resolver.cache.bestExact "greeting" ⟨1, 1, 0⟩ stocked.now).2.catalog.shelf
      "greeting").get? ⟨1, 0, 0⟩ = some [offered "greeting" ⟨1, 0, 0⟩ 1 1] ∧
    (stocked.resolver.cache.bestExact "farewell" ⟨1, 0, 0⟩ stocked.now).2.catalog.get?
      "farewell" = none := by
  obtain ⟨_, best, kept, _, _, others, _⟩ :=
    lookup_evicts arises_stocked "greeting" ⟨1, 1, 0⟩ stocked.now
  obtain ⟨_, _, _, _, gone, _⟩ := lookup_evicts arises_stocked "farewell" ⟨1, 0, 0⟩ stocked.now
  refine ⟨(best _).mp (by decide), kept.trans (by decide),
    (others ⟨1, 0, 0⟩ (by decide)).trans (by decide),
    gone.mpr ⟨by decide, fun other different => ?_⟩⟩
  refine (Bool.not_eq_true _).mp fun known => ?_
  obtain ⟨instances, member⟩ := (contains_iff_exists_mem arises_stocked.wellFormed).mp known
  have shelf : stocked.resolver.cache.catalog.shelf "farewell" =
      [(⟨1, 0, 0⟩, [offered "farewell" ⟨1, 0, 0⟩ 6 1])] := by
    decide
  rw [shelf, List.mem_singleton] at member
  exact different (congrArg Prod.fst member)

end Cache

end ServiceDiscovery
