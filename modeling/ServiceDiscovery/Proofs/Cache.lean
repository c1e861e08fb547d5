/-
This file proves what the cache of a node holds and what it finds. Every operation has one
equation for the instances stored under a name and version: a lookup leaves the fresh instances
of the versions that it covers and everything else as it was, and it finds the fastest of them
in the newest of those versions. A well-formed cache stores every instance under its own
identity, none that runs on this node and none twice.
-/

import ServiceDiscovery.Proofs.Instances
import ServiceDiscovery.Proofs.Shelf

namespace ServiceDiscovery.Cache

/-! ### What is stored after each operation -/

theorem stored_withStored (cache : Cache) (name : String) (version : Version)
    (instances : List Instance) (other : String) (otherVersion : Version) :
    (cache.withStored name version instances).stored other otherVersion =
      if name = other ∧ version = otherVersion then instances
      else cache.stored other otherVersion := by
  unfold stored withStored
  rw [Catalog.shelf_put]
  by_cases named : name = other
  · rw [if_pos named, Shelf.get_put, named]
    by_cases versioned : version = otherVersion
    · rw [if_pos versioned, if_pos ⟨rfl, versioned⟩]
      rfl
    · rw [if_neg versioned, if_neg fun both => versioned both.2]
  · rw [if_neg named, if_neg fun both => named both.1]

theorem get_settleVersion (shelf : Shelf (List Instance)) (version : Version)
    (instances : List Instance) (other : Version) :
    ((settleVersion shelf version instances).get? other).getD [] =
      if version = other then instances else (shelf.get? other).getD [] := by
  unfold settleVersion
  split
  · rename_i empty
    rw [Shelf.get_erase, List.isEmpty_iff.mp empty]
    split <;> rfl
  · rw [Shelf.get_put]
    split <;> rfl

theorem stored_keeping (cache : Cache) (name : String) (version : Version)
    (instances : List Instance) (other : String) (otherVersion : Version) :
    (cache.keeping name version instances).stored other otherVersion =
      if name = other ∧ version = otherVersion then instances
      else cache.stored other otherVersion := by
  unfold stored keeping
  rw [Catalog.shelf_settle]
  by_cases named : name = other
  · rw [if_pos named, get_settleVersion, named]
    by_cases versioned : version = otherVersion
    · rw [if_pos versioned, if_pos ⟨rfl, versioned⟩]
    · rw [if_neg versioned, if_neg fun both => versioned both.2]
  · rw [if_neg named, if_neg fun both => named both.1]

theorem stored_of_get {cache : Cache} {name : String} {version : Version}
    {instances : List Instance}
    (found : (cache.catalog.shelf name).get? version = some instances) :
    cache.stored name version = instances := by
  rw [stored, found]
  rfl

theorem stored_of_get_none {cache : Cache} {name : String} {version : Version}
    (missing : (cache.catalog.shelf name).get? version = none) :
    cache.stored name version = [] := by
  rw [stored, missing]
  rfl

/-- An instance on another node is put among those of its identity, and nothing else changes. -/
theorem add_of_remote {occurrence : Instance} (remote : occurrence.isHere = false)
    (cache : Cache) (now : Instant) :
    (cache.add occurrence now).1 =
      cache.withStored occurrence.identity.name occurrence.identity.version
        (insert occurrence now
          (cache.stored occurrence.identity.name occurrence.identity.version)).1 := by
  rw [add, remote]
  rfl

theorem add_of_here {occurrence : Instance} (here : occurrence.isHere = true) (cache : Cache)
    (now : Instant) : (cache.add occurrence now).1 = cache := by
  rw [add, if_pos here]

theorem identity_eq_iff {identity : Identity} {name : String} {version : Version} :
    identity = ⟨name, version⟩ ↔ identity.name = name ∧ identity.version = version := by
  rw [← Identity.mk.injEq]

theorem stored_add {occurrence : Instance} (remote : occurrence.isHere = false) (cache : Cache)
    (now : Instant) (name : String) (version : Version) :
    (cache.add occurrence now).1.stored name version =
      if occurrence.identity = ⟨name, version⟩ then
        (insert occurrence now (cache.stored name version)).1
      else cache.stored name version := by
  rw [add_of_remote remote, stored_withStored]
  simp only [← identity_eq_iff]
  split
  · rename_i same
    rw [same]
  · rfl

theorem stored_remove (cache : Cache) (occurrence : Instance) (name : String)
    (version : Version) :
    (cache.remove occurrence).1.stored name version =
      if occurrence.identity = ⟨name, version⟩ then
        without occurrence (cache.stored name version)
      else cache.stored name version := by
  unfold remove
  split
  · rename_i missing
    split
    · rename_i same
      rw [same] at missing
      rw [stored_of_get_none missing]
      rfl
    · rfl
  · rename_i instances found
    rw [stored_keeping]
    simp only [← identity_eq_iff]
    by_cases same : occurrence.identity = ⟨name, version⟩
    · rw [if_pos same, if_pos same]
      rw [same] at found
      rw [stored_of_get found]
    · rw [if_neg same, if_neg same]

/-! ### What a lookup finds and leaves -/

theorem fst_bestExact (cache : Cache) (name : String) (version : Version) (now : Instant) :
    (cache.bestExact name version now).1 =
      fastest? (fresh cache.lifetime now (cache.stored name version)) := by
  unfold bestExact
  split
  · rename_i missing
    rw [stored_of_get_none missing]
    rfl
  · rename_i instances found
    rw [stored_of_get found]

theorem stored_bestExact (cache : Cache) (name : String) (version : Version) (now : Instant)
    (other : String) (otherVersion : Version) :
    (cache.bestExact name version now).2.stored other otherVersion =
      if name = other ∧ version = otherVersion then
        fresh cache.lifetime now (cache.stored other otherVersion)
      else cache.stored other otherVersion := by
  unfold bestExact
  split
  · rename_i missing
    split
    · rename_i both
      rw [← both.1, ← both.2, stored_of_get_none missing]
      rfl
    · rfl
  · rename_i instances found
    rw [stored_keeping]
    split
    · rename_i both
      rw [← both.1, ← both.2, stored_of_get found]
    · rfl

/-- What a lookup of all versions that fit leaves of one version. -/
def left (lifetime : Duration) (now : Instant) (constraint : Constraint) (version : Version)
    (instances : List Instance) : List Instance :=
  if constraint.fits version then fresh lifetime now instances else instances

theorem sweep_cons (lifetime : Duration) (now : Instant) (constraint : Constraint)
    (slot : Version × List Instance) (others : Shelf (List Instance)) :
    sweep lifetime now constraint (slot :: others) =
      if (left lifetime now constraint slot.1 slot.2).isEmpty then
        sweep lifetime now constraint others
      else (slot.1, left lifetime now constraint slot.1 slot.2) ::
        sweep lifetime now constraint others := by
  have kept : (if constraint.fits slot.1 then (slot.1, fresh lifetime now slot.2) else slot) =
      (slot.1, left lifetime now constraint slot.1 slot.2) := by
    rw [left]
    split <;> rfl
  rw [sweep, List.map_cons, List.filter_cons, kept]
  cases (left lifetime now constraint slot.1 slot.2).isEmpty <;> rfl

/-- A slot after a sweep is a slot before it with what is left, which is something. -/
theorem mem_sweep {lifetime : Duration} {now : Instant} {constraint : Constraint}
    {shelf : Shelf (List Instance)} {slot : Version × List Instance}
    (member : slot ∈ sweep lifetime now constraint shelf) :
    slot.2 ≠ [] ∧ ∃ instances, (slot.1, instances) ∈ shelf ∧
      slot.2 = left lifetime now constraint slot.1 instances := by
  induction shelf with
  | nil => cases member
  | cons first others inductionHypothesis =>
    rw [sweep_cons] at member
    split at member
    · obtain ⟨filled, instances, found, kept⟩ := inductionHypothesis member
      exact ⟨filled, instances, List.mem_cons_of_mem _ found, kept⟩
    · rename_i filled
      rcases List.mem_cons.mp member with rfl | member
      · exact ⟨fun empty => filled (List.isEmpty_iff.mpr empty), first.2, List.mem_cons_self, rfl⟩
      · obtain ⟨filled, instances, found, kept⟩ := inductionHypothesis member
        exact ⟨filled, instances, List.mem_cons_of_mem _ found, kept⟩

theorem ascending_sweep {shelf : Shelf (List Instance)} (ascending : shelf.Ascending)
    (lifetime : Duration) (now : Instant) (constraint : Constraint) :
    (sweep lifetime now constraint shelf).Ascending := by
  induction shelf with
  | nil => exact List.Pairwise.nil
  | cons slot others inductionHypothesis =>
    obtain ⟨below, rest⟩ := List.pairwise_cons.mp ascending
    rw [sweep_cons]
    split
    · exact inductionHypothesis rest
    · refine List.pairwise_cons.mpr ⟨fun other member => ?_, inductionHypothesis rest⟩
      obtain ⟨_, instances, found, _⟩ := mem_sweep member
      exact below (other.1, instances) found

theorem get_sweep {shelf : Shelf (List Instance)} (ascending : shelf.Ascending)
    (lifetime : Duration) (now : Instant) (constraint : Constraint) (version : Version) :
    ((sweep lifetime now constraint shelf).get? version).getD [] =
      left lifetime now constraint version ((shelf.get? version).getD []) := by
  induction shelf with
  | nil =>
    show [] = left lifetime now constraint version []
    unfold left
    split <;> rfl
  | cons slot others inductionHypothesis =>
    obtain ⟨below, rest⟩ := List.pairwise_cons.mp ascending
    rw [sweep_cons, Shelf.get_cons]
    by_cases here : slot.1 = version
    · rw [if_pos here, here]
      split
      · -- The version is gone, and no other slot stands for it.
        rename_i empty
        rw [inductionHypothesis rest, Shelf.get_eq_none_of_below (here ▸ below)]
        rw [Option.getD_some, List.isEmpty_iff.mp empty]
        unfold left
        split <;> rfl
      · rw [Shelf.get_cons, if_pos rfl]
        rfl
    · rw [if_neg here]
      split
      · exact inductionHypothesis rest
      · rw [Shelf.get_cons, if_neg here]
        exact inductionHypothesis rest

theorem fst_bestCompatible (cache : Cache) (name : String) (constraint : Constraint)
    (now : Instant) :
    (cache.bestCompatible name constraint now).1 =
      bestOf cache.lifetime now constraint (cache.catalog.shelf name) := by
  unfold bestCompatible Catalog.shelf
  split
  · rename_i missing
    rw [missing]
    rfl
  · rename_i shelf found
    rw [found]
    rfl

theorem lifetime_remove (cache : Cache) (occurrence : Instance) :
    (cache.remove occurrence).1.lifetime = cache.lifetime := by
  unfold remove
  split <;> rfl

theorem lifetime_bestExact (cache : Cache) (name : String) (version : Version) (now : Instant) :
    (cache.bestExact name version now).2.lifetime = cache.lifetime := by
  unfold bestExact
  split <;> rfl

theorem lifetime_bestCompatible (cache : Cache) (name : String) (constraint : Constraint)
    (now : Instant) : (cache.bestCompatible name constraint now).2.lifetime = cache.lifetime := by
  unfold bestCompatible
  split <;> rfl

/-! ### What every cache satisfies -/

/-- Instances as they are stored under a name and version. -/
structure Placed (name : String) (version : Version) (instances : List Instance) : Prop where
  identity : ∀ occurrence ∈ instances, occurrence.identity = ⟨name, version⟩
  remote : ∀ occurrence ∈ instances, occurrence.isHere = false
  distinct : instances.Pairwise fun first second => first.same second = false

/-- Some instances are stored under a name and version, each once. -/
def Holds (name : String) (version : Version) (instances : List Instance) : Prop :=
  instances ≠ [] ∧ Placed name version instances

/-- The cache is as its operations leave it. -/
def WellFormed (cache : Cache) : Prop :=
  cache.catalog.WellFormed Holds

variable {cache : Cache} {name : String} {version : Version} {instances : List Instance}

theorem Placed.nil (name : String) (version : Version) : Placed name version [] :=
  ⟨List.forall_mem_nil _, List.forall_mem_nil _, List.Pairwise.nil⟩

theorem Placed.filter (placed : Placed name version instances) (keep : Instance → Bool) :
    Placed name version (instances.filter keep) :=
  ⟨fun occurrence member => placed.identity occurrence (List.mem_filter.mp member).1,
    fun occurrence member => placed.remote occurrence (List.mem_filter.mp member).1,
    placed.distinct.filter keep⟩

theorem Placed.cons {first : Instance} (identity : first.identity = ⟨name, version⟩)
    (remote : first.isHere = false) (others : ∀ other ∈ instances, first.same other = false)
    (placed : Placed name version instances) : Placed name version (first :: instances) :=
  ⟨List.forall_mem_cons.mpr ⟨identity, placed.identity⟩,
    List.forall_mem_cons.mpr ⟨remote, placed.remote⟩,
    List.pairwise_cons.mpr ⟨others, placed.distinct⟩⟩

theorem Placed.tail {first : Instance} (placed : Placed name version (first :: instances)) :
    Placed name version instances :=
  ⟨(List.forall_mem_cons.mp placed.identity).2, (List.forall_mem_cons.mp placed.remote).2,
    (List.pairwise_cons.mp placed.distinct).2⟩

/-- No two instances of one identity are in one place. -/
theorem Placed.apart {before after : List Instance} {existing : Instance}
    (placed : Placed name version (before ++ existing :: after)) {other : Instance}
    (member : other ∈ before ++ after) : other.locality ≠ existing.locality := by
  obtain ⟨_, behind, ahead⟩ := List.pairwise_append.mp placed.distinct
  have remote := List.forall_mem_append.mp placed.remote
  intro same
  rcases List.mem_append.mp member with member | member
  · have different := ahead other member existing List.mem_cons_self
    rw [(Instance.same_iff_of_remote (remote.2 existing List.mem_cons_self)).mpr same] at different
    cases different
  · have different := (List.pairwise_cons.mp behind).1 other member
    rw [(Instance.same_iff_of_remote (remote.2 other (List.mem_cons_of_mem _ member))).mpr
      same.symm] at different
    cases different

/-- What is there after an instance was put in is the instance, or was there before, but for
the time when it was last seen. -/
theorem mem_insert {occurrence other : Instance} {now : Instant}
    (member : other ∈ (insert occurrence now instances).1) :
    other = occurrence ∨
      ∃ existing ∈ instances, other = existing ∨ other = existing.touch now := by
  rcases known_cases occurrence instances with isNew | ⟨before, existing, after, rfl, others, known⟩
  · rw [insert_of_new isNew] at member
    rcases List.mem_append.mp member with member | member
    · exact Or.inr ⟨other, member, Or.inl rfl⟩
    · exact Or.inl (List.mem_singleton.mp member)
  · rw [insert_of_known others known] at member
    rcases List.mem_append.mp member with member | member
    · exact Or.inr ⟨other, List.mem_append_left _ member, Or.inl rfl⟩
    · rcases List.mem_cons.mp member with rfl | member
      · exact Or.inr ⟨existing, List.mem_append_right _ List.mem_cons_self, Or.inr rfl⟩
      · exact Or.inr ⟨other, List.mem_append_right _ (List.mem_cons_of_mem _ member), Or.inl rfl⟩

theorem insert_ne_nil (occurrence : Instance) (now : Instant) (instances : List Instance) :
    (insert occurrence now instances).1 ≠ [] := by
  cases instances with
  | nil => exact List.cons_ne_nil _ _
  | cons existing others =>
    rw [insert]
    split <;> exact List.cons_ne_nil _ _

theorem Placed.insert (placed : Placed name version instances) {occurrence : Instance}
    (identity : occurrence.identity = ⟨name, version⟩) (remote : occurrence.isHere = false)
    (now : Instant) : Placed name version (insert occurrence now instances).1 := by
  induction instances with
  | nil =>
    exact Placed.cons identity remote (List.forall_mem_nil _) placed
  | cons existing others inductionHypothesis =>
    have own := placed.identity existing List.mem_cons_self
    have away := placed.remote existing List.mem_cons_self
    have apart := (List.pairwise_cons.mp placed.distinct).1
    rw [Cache.insert]
    split
    · exact Placed.cons own away apart placed.tail
    · rename_i different
      refine Placed.cons own away (fun other member => ?_) (inductionHypothesis placed.tail)
      rcases mem_insert member with rfl | ⟨other', known, rfl | rfl⟩
      · exact Bool.not_eq_true _ ▸ different
      · exact apart _ known
      · exact apart other' known

/-- Whatever is stored under a name and version is as it should be. -/
theorem WellFormed.placed (wellFormed : cache.WellFormed) (name : String) (version : Version) :
    Placed name version (cache.stored name version) := by
  unfold stored
  cases found : (cache.catalog.shelf name).get? version with
  | none => exact Placed.nil name version
  | some instances => exact (wellFormed.entry_of_get found).2

theorem wellFormed_empty (lifetime : Duration) : (empty lifetime).WellFormed :=
  Catalog.WellFormed.empty

theorem wellFormed_withStored (wellFormed : cache.WellFormed)
    (holds : Holds name version instances) :
    (cache.withStored name version instances).WellFormed := by
  refine Catalog.WellFormed.put wellFormed (Shelf.put_ne_nil _ _ _)
    (Shelf.ascending_put (wellFormed.ascending_shelf _) _ _) fun place member => ?_
  rcases Shelf.mem_put member with rfl | member
  · exact holds
  · exact wellFormed.entries_shelf _ place member

theorem wellFormed_keeping (wellFormed : cache.WellFormed)
    (placed : Placed name version instances) :
    (cache.keeping name version instances).WellFormed := by
  unfold keeping settleVersion
  split
  · exact Catalog.WellFormed.settle wellFormed
      (Shelf.ascending_erase (wellFormed.ascending_shelf _) _) fun place member =>
        wellFormed.entries_shelf _ place (List.mem_filter.mp member).1
  · rename_i filled
    refine Catalog.WellFormed.settle wellFormed
      (Shelf.ascending_put (wellFormed.ascending_shelf _) _ _) fun place member => ?_
    rcases Shelf.mem_put member with rfl | member
    · exact ⟨fun empty => filled (List.isEmpty_iff.mpr empty), placed⟩
    · exact wellFormed.entries_shelf _ place member

theorem wellFormed_add (wellFormed : cache.WellFormed) (occurrence : Instance) (now : Instant) :
    (cache.add occurrence now).1.WellFormed := by
  cases here : occurrence.isHere with
  | true =>
    rw [add_of_here here]
    exact wellFormed
  | false =>
    rw [add_of_remote here]
    exact wellFormed_withStored wellFormed
      ⟨insert_ne_nil _ _ _, (wellFormed.placed _ _).insert rfl here now⟩

theorem wellFormed_remove (wellFormed : cache.WellFormed) (occurrence : Instance) :
    (cache.remove occurrence).1.WellFormed := by
  unfold remove
  split
  · exact wellFormed
  · rename_i instances found
    exact wellFormed_keeping wellFormed ((wellFormed.entry_of_get found).2.filter _)

theorem wellFormed_bestExact (wellFormed : cache.WellFormed) (name : String)
    (version : Version) (now : Instant) :
    (cache.bestExact name version now).2.WellFormed := by
  unfold bestExact
  split
  · exact wellFormed
  · rename_i instances found
    exact wellFormed_keeping wellFormed ((wellFormed.entry_of_get found).2.filter _)

theorem wellFormed_bestCompatible (wellFormed : cache.WellFormed) (name : String)
    (constraint : Constraint) (now : Instant) :
    (cache.bestCompatible name constraint now).2.WellFormed := by
  unfold bestCompatible
  split
  · exact wellFormed
  · rename_i shelf found
    have known := Catalog.mem_of_get found
    refine Catalog.WellFormed.settle wellFormed
      (ascending_sweep (wellFormed.ascending _ known) _ _ _) fun place member => ?_
    obtain ⟨filled, instances, slot, kept⟩ := mem_sweep member
    have placed := (wellFormed.entries _ known _ slot).2
    refine ⟨filled, ?_⟩
    rw [kept, left]
    split
    · exact placed.filter _
    · exact placed

theorem stored_bestCompatible (wellFormed : cache.WellFormed) (name : String)
    (constraint : Constraint) (now : Instant) (other : String) (version : Version) :
    (cache.bestCompatible name constraint now).2.stored other version =
      if name = other ∧ constraint.fits version = true then
        fresh cache.lifetime now (cache.stored other version)
      else cache.stored other version := by
  unfold bestCompatible
  split
  · rename_i missing
    split
    · rename_i both
      rw [← both.1, stored, Catalog.shelf, missing]
      rfl
    · rfl
  · rename_i shelf found
    unfold stored
    rw [Catalog.shelf_settle]
    by_cases named : name = other
    · rw [if_pos named, get_sweep (wellFormed.ascending _ (Catalog.mem_of_get found)), ← named,
        Catalog.shelf, found, left]
      by_cases fits : constraint.fits version = true
      · rw [if_pos fits, if_pos ⟨rfl, fits⟩]
        rfl
      · rw [if_neg fits, if_neg fun both => fits both.2]
        rfl
    · rw [if_neg named, if_neg fun both => named both.1]

/-! ### The newest version that has a fresh instance -/

theorem bestOf_cons (lifetime : Duration) (now : Instant) (constraint : Constraint)
    (slot : Version × List Instance) (others : Shelf (List Instance)) :
    bestOf lifetime now constraint (slot :: others) =
      (bestOf lifetime now constraint others).or
        (if constraint.fits slot.1 then fastest? (fresh lifetime now slot.2) else none) := by
  rw [bestOf, List.reverse_cons, List.findSome?_append, List.findSome?_singleton]
  rfl

theorem bestOf_eq_none_iff {lifetime : Duration} {now : Instant} {constraint : Constraint}
    {shelf : Shelf (List Instance)} (ascending : shelf.Ascending) :
    bestOf lifetime now constraint shelf = none ↔
      ∀ version, constraint.fits version = true →
        fresh lifetime now ((shelf.get? version).getD []) = [] := by
  induction shelf with
  | nil => exact iff_of_true rfl fun _ _ => rfl
  | cons slot others inductionHypothesis =>
    obtain ⟨below, rest⟩ := List.pairwise_cons.mp ascending
    rw [bestOf_cons, Option.or_eq_none_iff, inductionHypothesis rest]
    constructor
    · rintro ⟨othersNone, slotNone⟩ version fits
      rw [Shelf.get_cons]
      by_cases here : slot.1 = version
      · rw [here, if_pos fits] at slotNone
        rw [if_pos here]
        exact fastest_eq_none_iff.mp slotNone
      · rw [if_neg here]
        exact othersNone version fits
    · intro none
      refine ⟨fun version fits => ?_, ?_⟩
      · by_cases here : slot.1 = version
        · rw [Shelf.get_eq_none_of_below (here ▸ below)]
          rfl
        · have nothing := none version fits
          rwa [Shelf.get_cons, if_neg here] at nothing
      · split
        · rename_i fits
          have nothing := none slot.1 fits
          rw [Shelf.get_cons, if_pos rfl] at nothing
          exact fastest_eq_none_iff.mpr nothing
        · rfl

theorem exists_of_bestOf {lifetime : Duration} {now : Instant} {constraint : Constraint}
    {shelf : Shelf (List Instance)} (ascending : shelf.Ascending) {best : Instance}
    (found : bestOf lifetime now constraint shelf = some best) :
    ∃ version, constraint.fits version = true ∧
      fastest? (fresh lifetime now ((shelf.get? version).getD [])) = some best ∧
      ∀ newer, constraint.fits newer = true → version.place < newer.place →
        fresh lifetime now ((shelf.get? newer).getD []) = [] := by
  induction shelf with
  | nil => cases found
  | cons slot others inductionHypothesis =>
    obtain ⟨below, rest⟩ := List.pairwise_cons.mp ascending
    rw [bestOf_cons, Option.or_eq_some_iff] at found
    rcases found with found | ⟨none, found⟩
    · obtain ⟨version, fits, best, newest⟩ := inductionHypothesis rest found
      cases known : Shelf.get? others version with
      | none =>
        rw [known] at best
        cases best
      | some instances =>
        have above := below _ (Shelf.mem_of_get known)
        have apart : ∀ {newer : Version}, version.place ≤ newer.place → slot.1 ≠ newer := by
          rintro newer atLeast rfl
          exact absurd (Nat.lt_of_lt_of_le above atLeast) (Nat.lt_irrefl _)
        refine ⟨version, fits, ?_, fun newer newerFits later => ?_⟩
        · rwa [Shelf.get_cons, if_neg (apart (Nat.le_refl _))]
        · rw [Shelf.get_cons, if_neg (apart (Nat.le_of_lt later))]
          exact newest newer newerFits later
    · split at found
      · rename_i fits
        refine ⟨slot.1, fits, ?_, fun newer newerFits later => ?_⟩
        · rwa [Shelf.get_cons, if_pos rfl]
        · have apart : slot.1 ≠ newer := by
            rintro rfl
            exact absurd later (Nat.lt_irrefl _)
          rw [Shelf.get_cons, if_neg apart]
          exact (bestOf_eq_none_iff rest).mp none newer newerFits
      · cases found

/-- A lookup finds nothing if no version that fits has a fresh instance. -/
theorem bestCompatible_eq_none_iff (wellFormed : cache.WellFormed) (name : String)
    (constraint : Constraint) (now : Instant) :
    (cache.bestCompatible name constraint now).1 = none ↔
      ∀ version, constraint.fits version = true →
        fresh cache.lifetime now (cache.stored name version) = [] := by
  rw [fst_bestCompatible]
  exact bestOf_eq_none_iff (wellFormed.ascending_shelf name)

/-- A lookup finds the fastest fresh instance of the newest version that fits and has one. -/
theorem bestCompatible_eq_some_iff (wellFormed : cache.WellFormed) (name : String)
    (constraint : Constraint) (now : Instant) (best : Instance) :
    (cache.bestCompatible name constraint now).1 = some best ↔
      ∃ version, constraint.fits version = true ∧
        fastest? (fresh cache.lifetime now (cache.stored name version)) = some best ∧
        ∀ newer, constraint.fits newer = true → version.place < newer.place →
          fresh cache.lifetime now (cache.stored name newer) = [] := by
  constructor
  · intro found
    rw [fst_bestCompatible] at found
    exact exists_of_bestOf (wellFormed.ascending_shelf name) found
  · rintro ⟨version, fits, fastest, newest⟩
    cases found : (cache.bestCompatible name constraint now).1 with
    | none =>
      rw [(bestCompatible_eq_none_iff wellFormed name constraint now).mp found version fits]
        at fastest
      cases fastest
    | some other =>
      rw [fst_bestCompatible] at found
      obtain ⟨otherVersion, otherFits, otherFastest, otherNewest⟩ :=
        exists_of_bestOf (wellFormed.ascending_shelf name) found
      change fastest? (fresh cache.lifetime now (cache.stored name otherVersion)) = some other
        at otherFastest
      rcases Nat.lt_trichotomy version.place otherVersion.place with older | equal | newer
      · rw [newest otherVersion otherFits older] at otherFastest
        cases otherFastest
      · rw [Version.place_inj] at equal
        rw [← otherFastest, ← fastest, equal]
      · change ∀ newer, _ → _ → fresh cache.lifetime now (cache.stored name newer) = []
          at otherNewest
        rw [otherNewest version fits newer] at fastest
        cases fastest

end ServiceDiscovery.Cache
