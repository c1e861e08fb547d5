/-
This file proves what a cache says about its contents. Listing, counting and asking for a name
and version are three walks over the same containers; in a well-formed cache they agree with
each other and with what is stored, since no container is empty and nothing stands in two
places. Every cache that a node can come to have is well-formed.
-/

import ServiceDiscovery.Proofs.History

namespace ServiceDiscovery

/-! ### Entries of a catalog -/

namespace Catalog

variable {Entry : Type} {catalog : Catalog (Shelf Entry)}

theorem mem_entries {entry : Entry} :
    entry ∈ catalog.entries ↔ ∃ slot ∈ catalog, ∃ place ∈ slot.2, place.2 = entry := by
  simp only [entries, List.mem_flatMap, List.mem_map]

theorem get_of_mem (distinct : (catalog.map Prod.fst).Nodup) {name : String}
    {content : Shelf Entry} (member : (name, content) ∈ catalog) :
    catalog.get? name = some content := by
  induction catalog with
  | nil => cases member
  | cons slot others inductionHypothesis =>
    obtain ⟨absent, rest⟩ := List.nodup_cons.mp distinct
    rw [get_cons]
    rcases List.mem_cons.mp member with rfl | member
    · rw [if_pos rfl]
    · rw [if_neg, inductionHypothesis rest member]
      rintro rfl
      exact absent (List.mem_map.mpr ⟨_, member, rfl⟩)

namespace WellFormed

variable {holds : String → Version → Entry → Prop}

theorem shelf_of_mem (wellFormed : WellFormed holds catalog) {slot : String × Shelf Entry}
    (member : slot ∈ catalog) : catalog.shelf slot.1 = slot.2 := by
  rw [shelf, get_of_mem wellFormed.nodup member]
  rfl

/-- A well-formed catalog has an entry exactly where it is found. -/
theorem get_eq_some_iff (wellFormed : WellFormed holds catalog) {name : String}
    {version : Version} {entry : Entry} :
    (catalog.shelf name).get? version = some entry ↔
      ∃ slot ∈ catalog, slot.1 = name ∧ (version, entry) ∈ slot.2 := by
  constructor
  · intro found
    unfold shelf at found
    cases known : catalog.get? name with
    | none =>
      rw [known] at found
      cases found
    | some content =>
      rw [known] at found
      exact ⟨_, mem_of_get known, rfl, Shelf.mem_of_get found⟩
  · rintro ⟨slot, member, rfl, placed⟩
    rw [wellFormed.shelf_of_mem member]
    exact Shelf.get_of_mem (wellFormed.ascending slot member) placed

end WellFormed

end Catalog

/-! ### What tells remote instances apart -/

namespace Instance

/-- The agent that answers and its node. -/
def origin (occurrence : Instance) : AgentId × Option NodeId :=
  (occurrence.agent, occurrence.node?)

/-- What tells cached instances apart: the service, the agent that answers and its node. -/
abbrev Key := Identity × AgentId × Option NodeId

/-- The service and its origin. -/
def key (occurrence : Instance) : Key :=
  (occurrence.identity, occurrence.origin)

theorem same_iff_origin {first second : Instance} (away : first.isHere = false)
    (alsoAway : second.isHere = false) :
    first.same second = true ↔ first.origin = second.origin := by
  obtain ⟨_, place, _, _⟩ := first
  obtain ⟨_, otherPlace, _, _⟩ := second
  cases place with
  | here handle => cases away
  | remote agent node =>
    cases otherPlace with
    | here handle => cases alsoAway
    | remote otherAgent otherNode =>
      rw [same_iff]
      simp only [origin, Instance.agent, Locality.agent, node?, Prod.mk.injEq, Option.some.injEq]

end Instance

/-! ### What a cache lists -/

namespace Cache

variable {cache : Cache}

theorem mem_snapshot {occurrence : Instance} :
    occurrence ∈ cache.snapshot ↔
      ∃ slot ∈ cache.catalog, ∃ place ∈ slot.2, occurrence ∈ place.2 := by
  simp only [snapshot, List.mem_flatten, Catalog.mem_entries]
  constructor
  · rintro ⟨_, ⟨slot, member, place, placed, rfl⟩, listed⟩
    exact ⟨slot, member, place, placed, listed⟩
  · rintro ⟨slot, member, place, placed, listed⟩
    exact ⟨_, ⟨slot, member, place, placed, rfl⟩, listed⟩

/-- What is stored under a name and version is what is listed with that identity. -/
theorem mem_stored_iff (wellFormed : cache.WellFormed) {name : String} {version : Version}
    {occurrence : Instance} :
    occurrence ∈ cache.stored name version ↔
      occurrence ∈ cache.snapshot ∧ occurrence.identity = ⟨name, version⟩ := by
  rw [mem_snapshot]
  constructor
  · intro member
    refine ⟨?_, (wellFormed.placed name version).identity occurrence member⟩
    cases found : (cache.catalog.shelf name).get? version with
    | none =>
      rw [stored_of_get_none found] at member
      cases member
    | some instances =>
      rw [stored_of_get found] at member
      obtain ⟨slot, known, _, placed⟩ := wellFormed.get_eq_some_iff.mp found
      exact ⟨slot, known, _, placed, member⟩
  · rintro ⟨⟨slot, known, place, placed, listed⟩, identity⟩
    rw [(wellFormed.entries slot known place placed).2.identity occurrence listed] at identity
    cases identity
    rwa [stored_of_get (wellFormed.get_eq_some_iff.mpr ⟨slot, known, rfl, placed⟩)]

theorem mem_snapshot_iff (wellFormed : cache.WellFormed) {occurrence : Instance} :
    occurrence ∈ cache.snapshot ↔
      occurrence ∈ cache.stored occurrence.identity.name occurrence.identity.version :=
  ((mem_stored_iff wellFormed).trans (and_iff_left rfl)).symm

/-- Something is stored under a name and version if and only if an instance of it is listed. -/
theorem contains_iff (wellFormed : cache.WellFormed) (name : String) (version : Version) :
    cache.contains name version = true ↔
      ∃ occurrence ∈ cache.snapshot, occurrence.identity = ⟨name, version⟩ := by
  simp only [← mem_stored_iff wellFormed]
  unfold contains
  cases found : (cache.catalog.shelf name).get? version with
  | none =>
    rw [stored_of_get_none found]
    exact iff_of_false Bool.false_ne_true fun ⟨_, member⟩ => List.not_mem_nil member
  | some instances =>
    rw [stored_of_get found]
    exact iff_of_true rfl (List.exists_mem_of_ne_nil _ (wellFormed.entry_of_get found).1)

theorem snapshot_eq (cache : Cache) :
    cache.snapshot = cache.catalog.flatMap fun slot => slot.2.flatMap Prod.snd := by
  simp only [snapshot, Catalog.entries, List.flatten_eq_flatMap, List.flatMap_assoc,
    List.flatMap_map, id]

theorem size_eq (cache : Cache) : cache.size = cache.snapshot.length := by
  have counted (content : Shelf (List Instance)) :
      content.foldr (fun place rest => place.2.length + rest) 0 =
        (content.flatMap Prod.snd).length := by
    induction content with
    | nil => rfl
    | cons place rest inductionHypothesis =>
      rw [List.foldr_cons, inductionHypothesis, List.flatMap_cons, List.length_append]
  rw [snapshot_eq, size]
  induction cache.catalog with
  | nil => rfl
  | cons slot others inductionHypothesis =>
    rw [List.foldr_cons, inductionHypothesis, counted, List.flatMap_cons, List.length_append]

/-- Only the empty cache counts nothing. -/
theorem isEmpty_iff (wellFormed : cache.WellFormed) : cache.isEmpty = true ↔ cache.size = 0 := by
  rw [size_eq, List.length_eq_zero_iff, isEmpty, List.isEmpty_iff]
  constructor
  · intro none
    rw [snapshot, none]
    rfl
  · intro nothing
    refine List.eq_nil_iff_forall_not_mem.mpr fun slot member => ?_
    obtain ⟨place, placed⟩ := List.exists_mem_of_ne_nil _ (wellFormed.nonempty slot member)
    obtain ⟨occurrence, listed⟩ :=
      List.exists_mem_of_ne_nil _ (wellFormed.entries slot member place placed).1
    have impossible := mem_snapshot.mpr ⟨slot, member, place, placed, listed⟩
    rw [nothing] at impossible
    cases impossible

theorem Placed.nodup_origin {name : String} {version : Version} {instances : List Instance}
    (placed : Placed name version instances) : (instances.map Instance.origin).Nodup := by
  refine List.pairwise_map.mpr (placed.distinct.imp_of_mem fun first second apart same => ?_)
  rw [(Instance.same_iff_origin (placed.remote _ first) (placed.remote _ second)).mpr same] at apart
  cases apart

/-- Among the instances of one version, those with one key are the same. -/
theorem Placed.same_iff_key {name : String} {version : Version} {instances : List Instance}
    (placed : Placed name version instances) {occurrence : Instance}
    (identity : occurrence.identity = ⟨name, version⟩) (remote : occurrence.isHere = false)
    {listed : Instance} (member : listed ∈ instances) :
    listed.same occurrence = true ↔ listed.key = occurrence.key := by
  rw [Instance.same_iff_origin (placed.remote listed member) remote]
  refine ⟨fun origin => Prod.ext ?_ origin, congrArg Prod.snd⟩
  exact (placed.identity listed member).trans identity.symm

theorem nodup_versions (wellFormed : cache.WellFormed) {slot : String × Shelf (List Instance)}
    (member : slot ∈ cache.catalog) : (slot.2.map Prod.fst).Nodup := by
  refine List.pairwise_map.mpr ((wellFormed.ascending slot member).imp fun below same => ?_)
  rw [same] at below
  exact absurd below (Nat.lt_irrefl _)

theorem identity_of_listed (wellFormed : cache.WellFormed) {slot : String × Shelf (List Instance)}
    (member : slot ∈ cache.catalog) {place : Version × List Instance} (placed : place ∈ slot.2)
    {occurrence : Instance} (listed : occurrence ∈ place.2) :
    occurrence.identity.name = slot.1 ∧ occurrence.identity.version = place.1 :=
  identity_eq_iff.mp ((wellFormed.entries slot member place placed).2.identity _ listed)

/-- No key is listed twice: origins keep apart what has one identity, versions what has one
name, and names the rest. -/
theorem nodup_key (wellFormed : cache.WellFormed) : (cache.snapshot.map Instance.key).Nodup := by
  rw [snapshot_eq]
  refine List.pairwise_map.mpr (List.pairwise_flatMap.mpr ⟨fun slot member =>
    List.pairwise_flatMap.mpr ⟨fun place placed => ?_, ?_⟩, ?_⟩)
  · have origins := (wellFormed.entries slot member place placed).2.nodup_origin
    exact (List.pairwise_map.mp origins).imp fun apart same => apart (congrArg Prod.snd same)
  · refine (List.pairwise_map.mp (nodup_versions wellFormed member)).imp_of_mem ?_
    intro place other placed alsoPlaced apart occurrence listed second alsoListed same
    refine apart ?_
    calc place.1 = occurrence.identity.version :=
          (identity_of_listed wellFormed member placed listed).2.symm
      _ = second.identity.version := congrArg (fun key => key.1.version) same
      _ = other.1 := (identity_of_listed wellFormed member alsoPlaced alsoListed).2
  · refine (List.pairwise_map.mp wellFormed.nodup).imp_of_mem ?_
    intro slot other member alsoMember apart occurrence listed second alsoListed same
    obtain ⟨place, placed, listed⟩ := List.mem_flatMap.mp listed
    obtain ⟨otherPlace, alsoPlaced, alsoListed⟩ := List.mem_flatMap.mp alsoListed
    refine apart ?_
    calc slot.1 = occurrence.identity.name :=
          (identity_of_listed wellFormed member placed listed).1.symm
      _ = second.identity.name := congrArg (fun key => key.1.name) same
      _ = other.1 := (identity_of_listed wellFormed alsoMember alsoPlaced alsoListed).1

end Cache

/-! ### Every cache that a node comes to have -/

namespace Moment

/-- Whatever happened at a node, every name in its cache has a version and every version an
instance; an instance stands under its own identity, runs on another node, and shares its origin
with no other of the version. Hence the cache is empty if and only if it counts nothing, it
contains a name and version if and only if it lists an instance of them, and what it lists is
what it stores, each key once. -/
theorem cache_contents {moment : Moment} (reachable : moment.Reachable) :
    (moment.resolver.cache.catalog.map Prod.fst).Nodup ∧
    (∀ slot ∈ moment.resolver.cache.catalog, slot.2 ≠ [] ∧ (slot.2.map Prod.fst).Nodup ∧
      ∀ place ∈ slot.2, place.2 ≠ [] ∧ (place.2.map Instance.origin).Nodup ∧
        ∀ occurrence ∈ place.2,
          occurrence.isHere = false ∧ occurrence.identity = ⟨slot.1, place.1⟩) ∧
    (moment.resolver.cache.isEmpty = true ↔ moment.resolver.cache.size = 0) ∧
    (∀ name version, moment.resolver.cache.contains name version = true ↔
      ∃ occurrence ∈ moment.resolver.cache.snapshot, occurrence.identity = ⟨name, version⟩) ∧
    (moment.resolver.cache.snapshot.map Instance.key).Nodup ∧
    ∀ name version occurrence, occurrence ∈ moment.resolver.cache.stored name version ↔
      occurrence ∈ moment.resolver.cache.snapshot ∧ occurrence.identity = ⟨name, version⟩ := by
  have wellFormed := reachable.wellFormed.resolver.cache
  refine ⟨wellFormed.nodup, fun slot member => ⟨wellFormed.nonempty slot member,
    Cache.nodup_versions wellFormed member, fun place placed => ?_⟩, Cache.isEmpty_iff wellFormed,
    Cache.contains_iff wellFormed, Cache.nodup_key wellFormed,
    fun name version occurrence => Cache.mem_stored_iff wellFormed⟩
  obtain ⟨filled, stored⟩ := wellFormed.entries slot member place placed
  exact ⟨filled, stored.nodup_origin, fun occurrence listed =>
    ⟨stored.remote occurrence listed, stored.identity occurrence listed⟩⟩

/-- A greeting on another node, as it is cached from there. -/
def greetingFrom (agent : AgentId) (node : UInt8) (rank : Nat) : Instance :=
  Instance.remote ⟨"greeting", ⟨1, 0, 0⟩⟩ agent (Bytes32.filled node) rank Instant.zero

/-- One greeting is cached, grows old and is seen again; a second one comes late and goes with
the lookup, and an instance on the node itself never comes in. -/
def revisited : Moment :=
  asker.after [.add (greetingFrom "first" 1 3), .wait ⟨9⟩, .add (greetingFrom "second" 2 1),
    .add (Instance.here ⟨"greeting", ⟨1, 0, 0⟩⟩ ⟨0, "asker"⟩ Instant.zero),
    .add (greetingFrom "first" 1 7), .lookupCompatible "greeting" .any,
    .remove (greetingFrom "second" 2 1), .add (greetingFrom "third" 3 1)]

/-- The cache lists the first and the third greeting, each once, and is not empty. -/
theorem cache_contents_revisited :
    revisited.resolver.cache.contains "greeting" ⟨1, 0, 0⟩ = true ∧
      revisited.resolver.cache.isEmpty = false ∧
      (revisited.resolver.cache.snapshot.map Instance.key).Nodup ∧
      revisited.resolver.cache.snapshot.map Instance.agent = ["first", "third"] := by
  obtain ⟨_, _, empty, contains, nodup, _⟩ :=
    cache_contents (Reachable.after (.start (Bytes32.filled 0) ⟨5⟩ (by decide)) _ :
      revisited.Reachable)
  have listed : revisited.resolver.cache.snapshot.map Instance.agent = ["first", "third"] := by
    decide
  refine ⟨(contains _ _).mpr ?_, (Bool.not_eq_true _).mp fun impossible => ?_, nodup, listed⟩
  · exact ⟨greetingFrom "third" 3 1, by decide, rfl⟩
  · exact absurd (empty.mp impossible) (by decide)

end Moment

end ServiceDiscovery
