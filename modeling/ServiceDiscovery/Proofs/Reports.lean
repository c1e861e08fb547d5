/-
This file proves that what a node reports of itself is consistent. Its services are listed with
their agents in one place and by name, from the newest version on, in another: both have the same
services in the same order. Its cache is listed by name, version and rank; it has as many rows as
are counted, and as many as clearing drops, and every row says which instance it is for. None of
this shows in which order a container yields its names: what sorting cannot tell apart stands in one
container and stays in its order.
-/

import Mathlib.Data.List.Forall2
import ServiceDiscovery.Proofs.Directory
import ServiceDiscovery.Proofs.Sorting

namespace ServiceDiscovery

/-! ### The services of a registry -/

namespace Registry

variable {registry other : Registry}

/-- All services of a registry in the order of their identities, which are all different. -/
structure Lists (registry : Registry) (services : List Instance) : Prop where
  complete : ∀ occurrence, occurrence ∈ services ↔
    registry.lookupExact occurrence.identity.name occurrence.identity.version = some occurrence
  ascending : services.Pairwise fun first second => first.identity.Precedes second.identity

/-- The identities of a registry, name by name and from the oldest version on. -/
def identities (registry : Registry) : List Identity :=
  registry.names.flatMap fun name => (registry.versions name).reverse.map (Identity.mk name)

theorem names_perm (registry : Registry) :
    registry.names.Perm (registry.catalog.map Prod.fst) :=
  List.mergeSort_perm _ _

theorem pairwise_names (wellFormed : registry.WellFormed) :
    registry.names.Pairwise fun first second => Identity.compareNames first second = .lt := by
  have sorted : registry.names.Pairwise fun first second =>
      (Identity.compareNames first second).isLE = true :=
    List.pairwise_mergeSort (fun _ _ _ => Std.TransCmp.isLE_trans) isLE_total _
  have distinct : registry.names.Nodup := registry.names_perm.nodup_iff.mpr wellFormed.nodup
  refine (sorted.and distinct).imp fun ⟨atMost, different⟩ => ?_
  refine (Ordering.isLE_iff_eq_lt_or_eq_eq.mp atMost).resolve_right fun same => different ?_
  exact Identity.compareNames_eq_eq_iff.mp same

theorem reverse_versions (registry : Registry) (name : String) :
    (registry.versions name).reverse = (registry.catalog.shelf name).map Prod.fst :=
  List.reverse_reverse _

theorem pairwise_identities (wellFormed : registry.WellFormed) :
    registry.identities.Pairwise Identity.Precedes := by
  refine List.pairwise_flatMap.mpr ⟨fun name _ => ?_, (pairwise_names wellFormed).imp ?_⟩
  · rw [reverse_versions, List.map_map]
    exact List.pairwise_map.mpr ((wellFormed.ascending_shelf name).imp fun below =>
      Or.inr ⟨rfl, below⟩)
  · intro first second less identity member follower alsoMember
    obtain ⟨_, _, rfl⟩ := List.mem_map.mp member
    obtain ⟨_, _, rfl⟩ := List.mem_map.mp alsoMember
    exact Or.inl (Identity.compareBytes_eq_lt_iff.mp less)

theorem identities_perm (wellFormed : registry.WellFormed) :
    registry.identities.Perm (registry.snapshot.map Instance.identity) := by
  refine (registry.names_perm.flatMap_right _).trans (List.Perm.of_eq ?_)
  rw [List.flatMap_map, snapshot, Catalog.entries, List.map_flatMap]
  refine List.flatMap_congr fun slot member => ?_
  rw [reverse_versions, wellFormed.shelf_of_mem member, List.map_map, List.map_map]
  exact List.map_congr_left fun place placed =>
    (wellFormed.entries slot member place placed).1.symm

/-- Sorting the services by identity puts them name by name, from the oldest version on. -/
theorem map_identity_localServices (wellFormed : registry.WellFormed) :
    (Http.localServices registry).map Instance.identity = registry.identities := by
  refine List.Perm.eq_of_pairwise ?_ (List.pairwise_map.mpr (List.pairwise_mergeSort
    (fun _ _ _ => Std.TransCmp.isLE_trans) (fun _ _ => isLE_total _ _) _))
    ((pairwise_identities wellFormed).imp fun before => Identity.atMost_iff.mpr (Or.inl before))
    (((List.mergeSort_perm _ _).map _).trans (identities_perm wellFormed).symm)
  intro first second _ _ atMost alsoAtMost
  rcases Identity.atMost_iff.mp atMost with before | same
  · rcases Identity.atMost_iff.mp alsoAtMost with after | same
    · exact absurd after before.asymm
    · exact same.symm
  · exact same

theorem lists_localServices (wellFormed : registry.WellFormed) :
    registry.Lists (Http.localServices registry) := by
  refine ⟨fun occurrence => List.mem_mergeSort.trans (mem_snapshot_iff wellFormed), ?_⟩
  have ascending := pairwise_identities wellFormed
  rw [← map_identity_localServices wellFormed] at ascending
  exact List.pairwise_map.mp ascending

/-- What is listed depends only on what is found. -/
theorem Lists.unique {services others : List Instance} (lists : registry.Lists services)
    (alsoLists : other.Lists others)
    (same : ∀ name version, other.lookupExact name version = registry.lookupExact name version) :
    others = services := by
  have distinct {listed : List Instance}
      (ascending : listed.Pairwise fun first second => first.identity.Precedes second.identity) :
      listed.Nodup := ascending.imp fun before equal => (equal ▸ before).asymm (equal ▸ before)
  refine List.Perm.eq_of_pairwise (fun _ _ _ _ before after => absurd after before.asymm)
    alsoLists.ascending lists.ascending ((List.perm_ext_iff_of_nodup
      (distinct alsoLists.ascending) (distinct lists.ascending)).mpr fun occurrence => ?_)
  rw [alsoLists.complete, lists.complete, same]

end Registry

/-! ### The instances of a cache -/

namespace Slots

variable {Key Entry Item : Type} [DecidableEq Key]

/-- What is collected from the slots of one key is collected from the entry that it has. -/
theorem flatMap_of_key {slots : List (Key × Entry)} (distinct : (slots.map Prod.fst).Nodup)
    (key : Key) (collect : Entry → List Item) :
    (slots.flatMap fun slot => if slot.1 = key then collect slot.2 else []) =
      (((slots.find? fun slot => slot.1 == key).map Prod.snd).map collect).getD [] := by
  induction slots with
  | nil => rfl
  | cons slot others inductionHypothesis =>
    obtain ⟨absent, rest⟩ := List.nodup_cons.mp distinct
    rw [List.flatMap_cons, find_cons]
    by_cases here : slot.1 = key
    · have nothing : (others.flatMap fun slot => if slot.1 = key then collect slot.2 else []) = [] :=
        List.flatMap_eq_nil_iff.mpr fun other member => if_neg fun same =>
          absent (List.mem_map.mpr ⟨other, member, same.trans here.symm⟩)
      rw [if_pos here, if_pos here, nothing, List.append_nil]
      rfl
    · rw [if_neg here, if_neg here, List.nil_append, inductionHypothesis rest]

end Slots

namespace Cache

variable {cache other : Cache}

/-- Among all instances, those of one identity stand in the order in which they are stored. -/
theorem filter_snapshot (wellFormed : cache.WellFormed) (identity : Identity) :
    (cache.snapshot.filter fun occurrence => occurrence.identity = identity) =
      cache.stored identity.name identity.version := by
  have ofShelf {slot : String × Shelf (List Instance)} (member : slot ∈ cache.catalog) :
      ((slot.2.flatMap Prod.snd).filter fun occurrence => occurrence.identity = identity) =
        if slot.1 = identity.name then
          slot.2.flatMap fun place => if place.1 = identity.version then place.2 else []
        else [] := by
    rw [List.filter_flatMap]
    by_cases named : slot.1 = identity.name
    · rw [if_pos named]
      refine List.flatMap_congr fun place placed => ?_
      have own := (wellFormed.entries slot member place placed).2.identity
      by_cases versioned : place.1 = identity.version
      · rw [if_pos versioned]
        refine List.filter_eq_self.mpr fun occurrence listed => decide_eq_true ?_
        rw [own occurrence listed, named, versioned]
      · rw [if_neg versioned]
        refine List.filter_eq_nil_iff.mpr fun occurrence listed same => versioned ?_
        rw [← of_decide_eq_true same, own occurrence listed]
    · rw [if_neg named]
      refine List.flatMap_eq_nil_iff.mpr fun place placed => ?_
      refine List.filter_eq_nil_iff.mpr fun occurrence listed same => named ?_
      rw [← of_decide_eq_true same, (wellFormed.entries slot member place placed).2.identity
        occurrence listed]
  rw [snapshot_eq, List.filter_flatMap, List.flatMap_congr fun slot member => ofShelf member,
    Slots.flatMap_of_key wellFormed.nodup identity.name fun shelf : Shelf (List Instance) =>
      shelf.flatMap fun place => if place.1 = identity.version then place.2 else []]
  unfold stored Catalog.shelf
  show ((cache.catalog.get? identity.name).map _).getD [] = _
  cases found : cache.catalog.get? identity.name with
  | none => rfl
  | some shelf =>
    have member := Catalog.mem_of_get found
    refine (Slots.flatMap_of_key (nodup_versions wellFormed member) identity.version id).trans ?_
    show (((shelf.get? identity.version).map id).getD []) = _
    rw [Option.map_id]
    rfl

/-- All instances of a cache, each once, by identity and rank; those that have both in common in
the order in which they are stored, which is that of their arrival. -/
structure Lists (cache : Cache) (instances : List Instance) : Prop where
  complete : ∀ occurrence, occurrence ∈ instances ↔
    occurrence ∈ cache.stored occurrence.identity.name occurrence.identity.version
  once : (instances.map Instance.key).Nodup
  ordered : instances.Pairwise fun first second => first.identity.Precedes second.identity ∨
    first.identity = second.identity ∧ first.responseTime ≤ second.responseTime
  arrivals : ∀ identity rank,
    (instances.filter fun occurrence =>
        (occurrence.identity, occurrence.responseTime) = (identity, rank)) =
      (cache.stored identity.name identity.version).filter fun occurrence =>
        occurrence.responseTime = rank

theorem rowAtMost_iff {first second : Instance} :
    Http.rowAtMost first second = true ↔ first.identity.Precedes second.identity ∨
      first.identity = second.identity ∧ first.responseTime ≤ second.responseTime := by
  rw [Http.rowAtMost, Ordering.isLE_iff_eq_lt_or_eq_eq, Ordering.then_eq_lt, Ordering.then_eq_eq,
    Identity.compare_eq_lt_iff, Identity.compare_eq_eq_iff, Nat.compare_eq_lt, Nat.compare_eq_eq,
    or_assoc, ← and_or_left, Nat.le_iff_lt_or_eq]

theorem lists_cachedInstances (wellFormed : cache.WellFormed) :
    cache.Lists (Http.cachedInstances cache) := by
  refine ⟨fun occurrence => List.mem_mergeSort.trans (mem_snapshot_iff wellFormed),
    Http.nodup_key_cachedInstances wellFormed, (List.pairwise_mergeSort Http.rowAtMost_trans
      Http.rowAtMost_total _).imp rowAtMost_iff.mp, fun identity rank => ?_⟩
  refine (filter_mergeSort_of_tied Http.rowAtMost_trans Http.rowAtMost_total
    fun first member second alsoMember => rowAtMost_iff.mpr (Or.inr ?_)).trans ?_
  · have own := Prod.mk.inj (of_decide_eq_true (List.mem_filter.mp member).2)
    have alsoOwn := Prod.mk.inj (of_decide_eq_true (List.mem_filter.mp alsoMember).2)
    exact ⟨own.1.trans alsoOwn.1.symm, Nat.le_of_eq (own.2.trans alsoOwn.2.symm)⟩
  · rw [← filter_snapshot wellFormed, List.filter_filter]
    refine List.filter_congr fun occurrence _ => ?_
    rw [← Bool.decide_and, decide_eq_decide, Prod.mk.injEq, and_comm]

/-- What is listed depends only on what is stored. -/
theorem Lists.unique {instances others : List Instance} (lists : cache.Lists instances)
    (alsoLists : other.Lists others)
    (same : ∀ name version, other.stored name version = cache.stored name version) :
    others = instances := by
  refine eq_of_sorted ?_ alsoLists.ordered lists.ordered
    fun (identity, rank) => (alsoLists.arrivals identity rank).trans ?_
  · rintro first second (before | atMost) (after | alsoAtMost)
    · exact absurd after before.asymm
    · exact absurd (alsoAtMost.1 ▸ before) (alsoAtMost.1 ▸ before).asymm
    · exact absurd (atMost.1 ▸ after) (atMost.1 ▸ after).asymm
    · exact Prod.ext atMost.1 (Nat.le_antisymm atMost.2 alsoAtMost.2)
  · rw [same]
    exact (lists.arrivals identity rank).symm

end Cache

/-! ### The order in which containers yield their names -/

namespace Catalog

variable {Entry : Type} {catalog other : Catalog (Shelf Entry)}

theorem get_perm (same : catalog.Perm other) (distinct : (catalog.map Prod.fst).Nodup)
    (name : String) : other.get? name = catalog.get? name := by
  have alsoDistinct := (same.map Prod.fst).nodup_iff.mp distinct
  refine Option.ext fun shelf => ⟨fun found => ?_, fun found => ?_⟩
  · exact get_of_mem distinct (same.mem_iff.mpr (mem_of_get found))
  · exact get_of_mem alsoDistinct (same.mem_iff.mp (mem_of_get found))

theorem shelf_perm (same : catalog.Perm other) (distinct : (catalog.map Prod.fst).Nodup)
    (name : String) : other.shelf name = catalog.shelf name :=
  congrArg (·.getD []) (get_perm same distinct name)

theorem WellFormed.perm {holds : String → Version → Entry → Prop}
    (wellFormed : WellFormed holds catalog) (same : catalog.Perm other) :
    WellFormed holds other where
  nodup := (same.map Prod.fst).nodup_iff.mp wellFormed.nodup
  nonempty slot member := wellFormed.nonempty slot (same.mem_iff.mpr member)
  ascending slot member := wellFormed.ascending slot (same.mem_iff.mpr member)
  entries slot member := wellFormed.entries slot (same.mem_iff.mpr member)

end Catalog

/-- The nodes are the same, but their containers may yield their names in different orders. -/
structure Node.Reordered (node other : Node) : Prop where
  services : node.registry.catalog.Perm other.registry.catalog
  instances : node.cache.catalog.Perm other.cache.catalog
  lifetime : other.cache.lifetime = node.cache.lifetime
  id : other.id = node.id
  now : other.now = node.now

namespace Node.Reordered

variable {node other : Node}

theorem names_eq (reordered : node.Reordered other) (wellFormed : node.registry.WellFormed) :
    other.registry.names = node.registry.names := by
  have ascending := Registry.pairwise_names wellFormed
  have alsoAscending := Registry.pairwise_names (wellFormed.perm reordered.services)
  refine List.Perm.eq_of_pairwise (fun first second _ _ before after => ?_) alsoAscending ascending
    ((other.registry.names_perm.trans (reordered.services.symm.map _)).trans
      node.registry.names_perm.symm)
  rw [Std.OrientedCmp.gt_of_lt before] at after
  cases after

theorem versions_eq (reordered : node.Reordered other) (wellFormed : node.registry.WellFormed)
    (name : String) : other.registry.versions name = node.registry.versions name :=
  congrArg Shelf.versions (Catalog.shelf_perm reordered.services wellFormed.nodup name)

theorem localServices_eq (reordered : node.Reordered other)
    (wellFormed : node.registry.WellFormed) :
    Http.localServices other.registry = Http.localServices node.registry := by
  refine (Registry.lists_localServices wellFormed).unique
    (Registry.lists_localServices (wellFormed.perm reordered.services)) fun name version => ?_
  rw [Registry.lookupExact_eq, Registry.lookupExact_eq,
    Catalog.shelf_perm reordered.services wellFormed.nodup]

theorem cachedInstances_eq (reordered : node.Reordered other)
    (wellFormed : node.cache.WellFormed) :
    Http.cachedInstances other.cache = Http.cachedInstances node.cache := by
  refine (Cache.lists_cachedInstances wellFormed).unique
    (Cache.lists_cachedInstances (wellFormed.perm reordered.instances)) fun name version => ?_
  unfold Cache.stored
  rw [Catalog.shelf_perm reordered.instances wellFormed.nodup]

end Node.Reordered

/-! ### What rows show -/

theorem map_eq_of_forall₂ {First Second Shown : Type} {related : First → Second → Prop}
    {shown : Second → Shown} {known : First → Shown} {firsts : List First} {seconds : List Second}
    (rows : List.Forall₂ related firsts seconds)
    (own : ∀ first second, related first second → shown second = known first) :
    seconds.map shown = firsts.map known := by
  induction rows with
  | nil => rfl
  | cons first _ inductionHypothesis =>
    rw [List.map_cons, List.map_cons, own _ _ first, inductionHypothesis]

namespace Http

/-- The name and the version that a row shows, if it shows both. -/
def namedVersion? (row : Json) : Option (String × String) := do
  some (← (← row.member? "name").text?, ← (← row.member? "version").text?)

/-- The row says which service an instance is of, and which agent answers for it. -/
structure Names (occurrence : Instance) (row : Json) : Prop where
  name : row.member? "name" = some (Json.text occurrence.identity.name)
  version : row.member? "version" = some (Json.text occurrence.identity.version.display)
  agent : row.member? "agent_id" = some (Json.text occurrence.agent)

theorem Names.namedVersion_eq {occurrence : Instance} {row : Json} (names : Names occurrence row) :
    namedVersion? row = some occurrence.identity.texts := by
  rw [namedVersion?, names.name, names.version]
  rfl

/-- A row of the status says this about a service of the node, and nothing else. -/
structure IsServiceRow (occurrence : Instance) (row : Json) : Prop extends
    Names occurrence row where
  keys : row.members.map Prod.fst = ["name", "version", "agent_id"]

/-- A row of the cache says this about an instance on another node, and at a moment also which
node that is, with which rank it came and for how many seconds it was not seen. -/
structure IsCacheRow (now : Instant) (occurrence : Instance) (row : Json) : Prop extends
    Names occurrence row where
  node : ∃ id, occurrence.node? = some id ∧ row.member? "node_id" = some (Json.text id.display)
  rank : row.member? "response_time_ms" = some (Json.natural occurrence.responseTime)
  age : row.member? "last_seen_secs" =
    some (Json.natural (now.since occurrence.lastSeen).seconds)
  keys : row.members.map Prod.fst =
    ["name", "version", "agent_id", "node_id", "response_time_ms", "last_seen_secs"]

theorem IsCacheRow.node_eq {now : Instant} {occurrence : Instance} {row : Json}
    (shows : IsCacheRow now occurrence row) :
    row.member? "node_id" = occurrence.node?.map fun id => Json.text id.display := by
  obtain ⟨id, placed, named⟩ := shows.node
  rw [named, placed]
  rfl

theorem isServiceRow_localServiceRow (occurrence : Instance) :
    IsServiceRow occurrence (localServiceRow occurrence) :=
  ⟨⟨rfl, rfl, rfl⟩, rfl⟩

theorem isCacheRow_cachedRow (now : Instant) {occurrence : Instance}
    (away : occurrence.isHere = false) : IsCacheRow now occurrence (cachedRow now occurrence) := by
  obtain ⟨identity, place, lastSeen, rank⟩ := occurrence
  cases place with
  | here handle => cases away
  | remote agent node => exact ⟨⟨rfl, rfl, rfl⟩, ⟨node, rfl, rfl⟩, rfl, rfl, rfl⟩

/-- The status has a row for each service. -/
theorem forall₂_localServiceRow (services : List Instance) :
    List.Forall₂ IsServiceRow services (services.map localServiceRow) :=
  List.forall₂_map_right_iff.mpr
    (List.forall₂_same.mpr fun occurrence _ => isServiceRow_localServiceRow occurrence)

/-- The listing of the cache has a row for each instance. -/
theorem forall₂_cachedRow {cache : Cache} (wellFormed : cache.WellFormed) (now : Instant) :
    List.Forall₂ (IsCacheRow now) (cachedInstances cache)
      ((cachedInstances cache).map (cachedRow now)) := by
  refine List.forall₂_map_right_iff.mpr (List.forall₂_same.mpr fun occurrence listed => ?_)
  have stored := (Cache.mem_snapshot_iff wellFormed).mp (List.mem_mergeSort.mp listed)
  exact isCacheRow_cachedRow now ((wellFormed.placed _ _).remote occurrence stored)

/-! ### What calls are answered -/

/-- The call goes to a place, by the method that the place is for. -/
structure Call.Reaches (call : Call) (route : Route) : Prop where
  placed : call.path = route.path
  method : call.method = if route.isListing then "GET" else "POST"

/-- A call that reaches its place is answered there. -/
theorem Call.Reaches.handle_eq {call : Call} {route : Route} (reaches : call.Reaches route)
    (context : Context) (node : Node) (outcome : Round.Outcome) :
    handle context node outcome call = serve context node outcome call route := by
  unfold handle
  rw [reaches.placed, reaches.method]
  cases route <;> rfl

/-- The services by name, each with its versions. -/
def directoryAnswer (directory : List (String × List String)) : Answer :=
  .ok (Json.ofFields [("services", Json.ofFields (directory.map fun entry =>
    (entry.1, .array (entry.2.map Json.text))))])

/-- The state of a node, with a row for each of its services and the number of instances in its
cache. -/
def statusAnswer (context : Context) (id : NodeId) (rows : List Json) (count : Nat) : Answer :=
  .ok (Json.ofFields [("node_id", Json.text id.display), ("busy", .bool context.busy),
    ("uptime", Json.text (uptimeText context.uptime)), ("local_services", .array rows),
    ("remote_instances", Json.natural count)])

/-- The answer to a call that clears the cache. -/
def clearance (count : Nat) : Answer :=
  .ok (Json.ofFields [("cleared", Json.natural count)])

/-- The names of a registry, each with its versions from the newest on, as they are written. -/
def directory (registry : Registry) : List (String × List String) :=
  registry.names.map fun name => (name, (registry.versions name).map Version.display)

theorem answer_services (context : Context) (node : Node) (outcome : Round.Outcome) {call : Call}
    (reaches : call.Reaches .services) :
    (handle context node outcome call).answer = directoryAnswer (directory node.registry) := by
  rw [reaches.handle_eq, directoryAnswer, directory, List.map_map]
  show Answer.ok (servicesReport node) = _
  rw [servicesReport]
  simp only [Function.comp_def, List.map_map]

theorem size_eq_length_cachedInstances (cache : Cache) :
    cache.size = (cachedInstances cache).length := by
  rw [Cache.size_eq, cachedInstances, List.length_mergeSort]

theorem answer_status (context : Context) (node : Node) (outcome : Round.Outcome) {call : Call}
    (reaches : call.Reaches .status) :
    (handle context node outcome call).answer =
      statusAnswer context node.id ((localServices node.registry).map localServiceRow)
        (cachedInstances node.cache).length := by
  rw [reaches.handle_eq, ← size_eq_length_cachedInstances]
  rfl

theorem answer_cache (context : Context) (node : Node) (outcome : Round.Outcome) {call : Call}
    (reaches : call.Reaches .cache) :
    (handle context node outcome call).answer =
      listing (Json.natural node.cache.lifetime.seconds)
        ((cachedInstances node.cache).map (cachedRow node.now)) := by
  rw [reaches.handle_eq]
  rfl

theorem answer_clear (context : Context) (node : Node) (outcome : Round.Outcome) {call : Call}
    (reaches : call.Reaches .clear) :
    (handle context node outcome call).answer = clearance (cachedInstances node.cache).length := by
  rw [reaches.handle_eq, ← size_eq_length_cachedInstances]
  rfl

/-- Read in order, with the versions of each name turned around, the directory has the services
in the order in which they are listed. -/
theorem flatMap_directory {registry : Registry} (wellFormed : registry.WellFormed) :
    ((directory registry).flatMap fun entry => entry.2.reverse.map fun version =>
        (entry.1, version)) =
      (localServices registry).map fun occurrence => occurrence.identity.texts := by
  have texts : ((localServices registry).map fun occurrence => occurrence.identity.texts) =
      registry.identities.map Identity.texts := by
    rw [← Registry.map_identity_localServices wellFormed, List.map_map]
    rfl
  rw [texts, Registry.identities, List.map_flatMap, directory, List.flatMap_map]
  refine List.flatMap_congr fun name _ => ?_
  rw [← List.map_reverse, List.map_map, List.map_map]
  rfl

theorem nodup_texts {registry : Registry} {services : List Instance}
    (lists : registry.Lists services) :
    (services.map fun occurrence => occurrence.identity.texts).Nodup := by
  refine List.pairwise_map.mpr (lists.ascending.imp fun before same => ?_)
  rw [Identity.texts_injective same] at before
  exact before.asymm before

theorem map_namedVersion {services : List Instance} {rows : List Json}
    (shown : List.Forall₂ IsServiceRow services rows) :
    rows.map namedVersion? =
      (services.map fun occurrence => occurrence.identity.texts).map some := by
  rw [List.map_map]
  exact map_eq_of_forall₂ shown fun _ _ row => row.namedVersion_eq

/-- What a node reports of itself agrees, whatever happened to it. The services by name, with the
versions of each name turned around, are the names and versions that the rows of the status show,
in their order and none of them twice. The rows are those of the services that are registered, and
say of each its name, its version and its agent. The status counts as many cached instances as the
listing of the cache has rows, and clearing says that it drops as many. The listing has a row for
every cached instance once, in the order of names, versions and ranks, and of those that have all
three in common the one that came first is first; its row says which one it is, and gives its rank
and its age. All answers stay the same in whatever order the containers yield their names. -/
theorem reports_agree {node : Node} (reachable : node.Reachable) (context : Context)
    (outcome : Round.Outcome) :
    ∃ (directory : List (String × List String)) (services instances : List Instance)
      (serviceRows rows : List Json),
      (∀ call : Call, call.Reaches .services →
        (handle context node outcome call).answer = directoryAnswer directory) ∧
      (∀ call : Call, call.Reaches .status → (handle context node outcome call).answer =
        statusAnswer context node.id serviceRows rows.length) ∧
      (∀ call : Call, call.Reaches .cache → (handle context node outcome call).answer =
        listing (Json.natural node.cache.lifetime.seconds) rows) ∧
      (∀ call : Call, call.Reaches .clear →
        (handle context node outcome call).answer = clearance rows.length) ∧
      (directory.flatMap fun entry =>
          entry.2.reverse.map fun version => some (entry.1, version)) =
        serviceRows.map namedVersion? ∧
      (serviceRows.map namedVersion?).Nodup ∧
      List.Forall₂ IsServiceRow services serviceRows ∧ node.registry.Lists services ∧
      List.Forall₂ (IsCacheRow node.now) instances rows ∧ node.cache.Lists instances ∧
      ∀ other : Node, node.Reordered other → ∀ route ∈ [Route.services, .status, .cache, .clear],
        ∀ call : Call, call.Reaches route →
          (handle context other outcome call).answer =
            (handle context node outcome call).answer := by
  have registry : node.registry.WellFormed := reachable.wellFormed.registry
  have cache : node.cache.WellFormed := reachable.wellFormed.cache
  have lists := Registry.lists_localServices registry
  have shown := forall₂_localServiceRow (localServices node.registry)
  have counted : ((cachedInstances node.cache).map (cachedRow node.now)).length =
      (cachedInstances node.cache).length := List.length_map _
  refine ⟨directory node.registry, localServices node.registry, cachedInstances node.cache,
    (localServices node.registry).map localServiceRow,
    (cachedInstances node.cache).map (cachedRow node.now),
    fun call => answer_services context node outcome, fun call reaches => ?_,
    fun call => answer_cache context node outcome, fun call reaches => ?_, ?_, ?_, shown, lists,
    forall₂_cachedRow cache node.now, Cache.lists_cachedInstances cache,
    fun other reordered route known call reaches => ?_⟩
  · rw [counted]
    exact answer_status context node outcome reaches
  · rw [counted]
    exact answer_clear context node outcome reaches
  · rw [map_namedVersion shown, ← flatMap_directory registry, List.map_flatMap]
    simp only [List.map_map, Function.comp_def]
  · rw [map_namedVersion shown]
    exact List.Pairwise.map some (fun _ _ different same => different (Option.some.inj same))
      (nodup_texts lists)
  · simp only [List.mem_cons, List.not_mem_nil, or_false] at known
    rcases known with rfl | rfl | rfl | rfl
    · rw [answer_services _ _ _ reaches, answer_services _ _ _ reaches, directory,
        reordered.names_eq registry, directory]
      simp only [reordered.versions_eq registry]
    · rw [answer_status _ _ _ reaches, answer_status _ _ _ reaches, reordered.id,
        reordered.localServices_eq registry, reordered.cachedInstances_eq cache]
    · rw [answer_cache _ _ _ reaches, answer_cache _ _ _ reaches, reordered.lifetime,
        reordered.now, reordered.cachedInstances_eq cache]
    · rw [answer_clear _ _ _ reaches, answer_clear _ _ _ reaches,
        reordered.cachedInstances_eq cache]

/-- A node with three services, two of them versions of one, and with three cached instances, two
of them of one version and rank. -/
def crossroads : Node :=
  (Node.empty (Bytes32.filled 0) ⟨5⟩).after
    [.register ⟨"greeting", ⟨1, 10, 0⟩⟩ ⟨0, "host"⟩, .register ⟨"greeting", ⟨1, 9, 0⟩⟩ ⟨1, "host"⟩,
      .register ⟨"farewell", ⟨1, 0, 0⟩⟩ ⟨2, "host"⟩, .add (Moment.greetingFrom "second" 2 3),
      .add (Moment.greetingFrom "first" 1 3),
      .add (Instance.remote ⟨"farewell", ⟨1, 0, 0⟩⟩ "first" (Bytes32.filled 1) 3 Instant.zero)]

/-- The node whose containers yield their names the other way round. -/
def turned (node : Node) : Node :=
  { node with
    resolver := ⟨node.id, ⟨node.registry.catalog.reverse⟩,
      ⟨node.cache.lifetime, node.cache.catalog.reverse⟩⟩ }

theorem reordered_turned (node : Node) : node.Reordered (turned node) :=
  ⟨(List.reverse_perm _).symm, (List.reverse_perm _).symm, rfl, rfl, rfl⟩

theorem reachable_crossroads : crossroads.Reachable :=
  (Node.Reachable.start _ _ (Nat.zero_le _)).after _

/-- The containers that were turned around yield the services in their order. -/
theorem localServices_crossroads : localServices crossroads.registry =
    [.here ⟨"farewell", ⟨1, 0, 0⟩⟩ ⟨2, "host"⟩ Instant.zero,
      .here ⟨"greeting", ⟨1, 9, 0⟩⟩ ⟨1, "host"⟩ Instant.zero,
      .here ⟨"greeting", ⟨1, 10, 0⟩⟩ ⟨0, "host"⟩ Instant.zero] := by
  rw [← (reordered_turned crossroads).localServices_eq reachable_crossroads.wellFormed.registry]
  exact (List.mergeSort_of_pairwise (by decide +kernel)).trans (by decide)

theorem cachedInstances_crossroads : cachedInstances crossroads.cache =
    [.remote ⟨"farewell", ⟨1, 0, 0⟩⟩ "first" (Bytes32.filled 1) 3 Instant.zero,
      Moment.greetingFrom "second" 2 3, Moment.greetingFrom "first" 1 3] := by
  rw [← (reordered_turned crossroads).cachedInstances_eq reachable_crossroads.wellFormed.cache]
  exact (List.mergeSort_of_pairwise (by decide +kernel)).trans (by decide)

def servicesCall : Call :=
  ⟨"GET", "/api/services", [], []⟩

def statusCall : Call :=
  ⟨"GET", "/api/status", [], []⟩

/-- The containers yield the services in different orders, and the reports are the same: they show
the farewell before the greetings and the ninth before the tenth of these, and of the cached
greetings with one rank the one that came first. -/
theorem reports_agree_crossroads :
    crossroads.Reachable ∧ crossroads.Reordered (turned crossroads) ∧
    (turned crossroads).registry.snapshot ≠ crossroads.registry.snapshot ∧
    (handle ⟨"api", ⟨0⟩, false⟩ (turned crossroads) Moment.noReplies servicesCall).answer =
      (handle ⟨"api", ⟨0⟩, false⟩ crossroads Moment.noReplies servicesCall).answer ∧
    ∃ serviceRows rows : List Json,
      (handle ⟨"api", ⟨0⟩, false⟩ (turned crossroads) Moment.noReplies statusCall).answer =
        statusAnswer ⟨"api", ⟨0⟩, false⟩ crossroads.id serviceRows rows.length ∧
      (handle ⟨"api", ⟨0⟩, false⟩ (turned crossroads) Moment.noReplies cacheCall).answer =
        listing (Json.natural 0) rows ∧
      serviceRows.map namedVersion? =
        [some ("farewell", "1.0.0"), some ("greeting", "1.9.0"), some ("greeting", "1.10.0")] ∧
      (serviceRows.map fun row => row.member? "agent_id") =
        [some (Json.text "host"), some (Json.text "host"), some (Json.text "host")] ∧
      rows.map namedVersion? =
        [some ("farewell", "1.0.0"), some ("greeting", "1.0.0"), some ("greeting", "1.0.0")] ∧
      (rows.map fun row => row.member? "agent_id") =
        [some (Json.text "first"), some (Json.text "second"), some (Json.text "first")] ∧
      (rows.map fun row => row.member? "node_id") =
        [some (Json.text (Bytes32.filled 1).display), some (Json.text (Bytes32.filled 2).display),
          some (Json.text (Bytes32.filled 1).display)] ∧
      (rows.map fun row => row.member? "response_time_ms") =
        [some (Json.natural 3), some (Json.natural 3), some (Json.natural 3)] := by
  have reordered := reordered_turned crossroads
  obtain ⟨_, services, instances, serviceRows, rows, _, status, cache, _, _, _, servicesShown,
    lists, instancesShown, cached, same⟩ :=
      reports_agree reachable_crossroads ⟨"api", ⟨0⟩, false⟩ Moment.noReplies
  have wellFormed := reachable_crossroads.wellFormed
  obtain rfl := ((Registry.lists_localServices wellFormed.registry).unique lists
    fun _ _ => rfl).trans localServices_crossroads
  obtain rfl := ((Cache.lists_cachedInstances wellFormed.cache).unique cached
    fun _ _ => rfl).trans cachedInstances_crossroads
  have statusReaches : statusCall.Reaches .status := ⟨by decide +kernel, rfl⟩
  have cacheReaches : cacheCall.Reaches .cache := ⟨by decide +kernel, rfl⟩
  refine ⟨reachable_crossroads, reordered, by decide, same _ reordered .services (by decide)
    servicesCall ⟨by decide +kernel, rfl⟩, serviceRows, rows, ?_, ?_, ?_, ?_, ?_, ?_, ?_, ?_⟩
  · rw [same _ reordered .status (by decide) statusCall statusReaches]
    exact status statusCall statusReaches
  · rw [same _ reordered .cache (by decide) cacheCall cacheReaches]
    exact cache cacheCall cacheReaches
  · exact (map_namedVersion servicesShown).trans (by decide +kernel)
  · exact map_eq_of_forall₂ servicesShown fun _ _ row => row.agent
  · exact (map_eq_of_forall₂ instancesShown fun _ _ row => row.namedVersion_eq).trans
      (by decide +kernel)
  · exact map_eq_of_forall₂ instancesShown fun _ _ row => row.agent
  · exact map_eq_of_forall₂ instancesShown fun _ _ row => row.node_eq
  · exact map_eq_of_forall₂ instancesShown fun _ _ row => row.rank

end Http

end ServiceDiscovery
