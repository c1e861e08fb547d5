/-
This file proves that adding and removing an instance concern one entry of a cache. An instance
that is stored already is touched where it stands; one that is new comes last among those of its
identity, and removing it takes back everything that came with it, the containers included. All
changes are edits of the lists that a cache is made of, after which nothing empty is left. An
instance counts as stored under its own identity only: the same agent and node under another name
or version is another entry.
-/

import ServiceDiscovery.Proofs.Lookup

namespace ServiceDiscovery.Cache

variable {cache : Cache} {name : String} {version : Version} {instances : List Instance}
  {occurrence : Instance} {now : Instant}

/-! ### Edits -/

/-- A shelf with every list of instances edited, without the versions that have none then. -/
def editedShelf (edit : List Instance → List Instance) (shelf : Shelf (List Instance)) :
    Shelf (List Instance) :=
  (shelf.map fun place => (place.1, edit place.2)).filter fun place => !place.2.isEmpty

/-- The cache with every list of instances edited, without the versions and the names that have
none then. -/
def edited (cache : Cache) (edit : List Instance → List Instance) : Cache :=
  ⟨cache.lifetime,
    (cache.catalog.map fun slot => (slot.1, editedShelf edit slot.2)).filter
      fun slot => !slot.2.isEmpty⟩

/-- The cache with the entry of a key seen now. -/
def refreshed (cache : Cache) (key : Instance.Key) (now : Instant) : Cache :=
  cache.edited (List.map fun listed => if listed.key = key then listed.touch now else listed)

/-- The cache without the entry of a key. -/
def dropped (cache : Cache) (key : Instance.Key) : Cache :=
  cache.edited (List.filter fun listed => decide (listed.key ≠ key))

theorem editedShelf_of_unconcerned {edit : List Instance → List Instance}
    {shelf : Shelf (List Instance)} (filled : ∀ place ∈ shelf, place.2 ≠ [])
    (unconcerned : ∀ place ∈ shelf, edit place.2 = place.2) : editedShelf edit shelf = shelf := by
  have kept : (shelf.map fun place => (place.1, edit place.2)) = shelf := by
    refine (List.map_congr_left fun place member => ?_).trans (List.map_id shelf)
    rw [unconcerned place member]
    rfl
  rw [editedShelf, kept]
  exact List.filter_eq_self.mpr fun place member => by simp [filled place member]

/-- Changing the instances of one version is an edit that does not concern any others. -/
theorem keeping_eq_edited (wellFormed : cache.WellFormed)
    (found : (cache.catalog.shelf name).get? version = some instances)
    {edit : List Instance → List Instance}
    (unconcerned : ∀ slot ∈ cache.catalog, ∀ place ∈ slot.2,
      ¬ (slot.1 = name ∧ place.1 = version) → edit place.2 = place.2) :
    cache.keeping name version (edit instances) = cache.edited edit := by
  obtain ⟨slot, member, rfl, placed⟩ := wellFormed.get_eq_some_iff.mp found
  have filled {other : String × Shelf (List Instance)} (known : other ∈ cache.catalog) :
      ∀ place ∈ other.2, place.2 ≠ [] := fun place stored =>
    (wellFormed.entries other known place stored).1
  have shelf : settleVersion slot.2 version (edit instances) = editedShelf edit slot.2 :=
    settleVersion_eq (wellFormed.ascending slot member) (filled member) placed rfl
      fun place stored different => unconcerned slot member place stored fun both =>
        different both.2
  refine congrArg (Cache.mk cache.lifetime) ?_
  rw [wellFormed.shelf_of_mem member, shelf, Catalog.settle,
    Catalog.put_of_known wellFormed.nodup member]
  refine Slots.settled_eq wellFormed.nonempty (fun other known here => ?_)
    fun other known different => ?_
  · rw [← wellFormed.shelf_of_mem known, here, wellFormed.shelf_of_mem member]
  · exact editedShelf_of_unconcerned (filled known) fun place stored =>
      unconcerned other known place stored fun both => different both.1

/-- Under another identity nothing has the key of an instance. -/
theorem key_ne_of_elsewhere (wellFormed : cache.WellFormed) {slot : String × Shelf (List Instance)}
    (member : slot ∈ cache.catalog) {place : Version × List Instance} (placed : place ∈ slot.2)
    (elsewhere : ¬ (slot.1 = occurrence.identity.name ∧ place.1 = occurrence.identity.version)) :
    ∀ listed ∈ place.2, listed.key ≠ occurrence.key := by
  intro listed stored same
  obtain ⟨named, versioned⟩ := identity_of_listed wellFormed member placed stored
  have identity : listed.identity = occurrence.identity := congrArg Prod.fst same
  rw [identity] at named versioned
  exact elsewhere ⟨named.symm, versioned.symm⟩

theorem map_touch_of_apart {key : Instance.Key}
    (apart : ∀ listed ∈ instances, listed.key ≠ key) (now : Instant) :
    (instances.map fun listed => if listed.key = key then listed.touch now else listed) =
      instances :=
  (List.map_congr_left fun listed member => if_neg (apart listed member)).trans (List.map_id _)

theorem filter_key_of_apart {key : Instance.Key}
    (apart : ∀ listed ∈ instances, listed.key ≠ key) :
    (instances.filter fun listed => decide (listed.key ≠ key)) = instances :=
  List.filter_eq_self.mpr fun listed member => decide_eq_true (apart listed member)

/-! ### What is stored -/

/-- An instance that is the same is stored under the identity of the instance. -/
def Stores (cache : Cache) (occurrence : Instance) : Prop :=
  ∃ existing ∈ cache.stored occurrence.identity.name occurrence.identity.version,
    existing.same occurrence = true

theorem not_stores_iff :
    ¬ cache.Stores occurrence ↔
      ∀ existing ∈ cache.stored occurrence.identity.name occurrence.identity.version,
        existing.same occurrence = false := by
  simp only [Stores, not_exists, not_and, Bool.not_eq_true]

/-- An instance is stored if and only if its key is listed. -/
theorem stores_iff (wellFormed : cache.WellFormed) (away : occurrence.isHere = false) :
    cache.Stores occurrence ↔ ∃ listed ∈ cache.snapshot, listed.key = occurrence.key := by
  have placed := wellFormed.placed occurrence.identity.name occurrence.identity.version
  constructor
  · rintro ⟨existing, member, same⟩
    exact ⟨existing, ((mem_stored_iff wellFormed).mp member).1,
      (placed.same_iff_key rfl away member).mp same⟩
  · rintro ⟨listed, member, same⟩
    have stored := (mem_stored_iff wellFormed).mpr ⟨member, congrArg Prod.fst same⟩
    exact ⟨listed, stored, (placed.same_iff_key rfl away stored).mpr same⟩

theorem Stores.exists_get (stores : cache.Stores occurrence) :
    ∃ instances, (cache.catalog.shelf occurrence.identity.name).get? occurrence.identity.version =
      some instances ∧ cache.stored occurrence.identity.name occurrence.identity.version =
        instances := by
  obtain ⟨existing, member, _⟩ := stores
  cases found : (cache.catalog.shelf occurrence.identity.name).get? occurrence.identity.version with
  | none =>
    rw [stored_of_get_none found] at member
    cases member
  | some instances => exact ⟨instances, rfl, stored_of_get found⟩

/-- What is stored is listed in one place, and its key nowhere else. -/
theorem Stores.exists_split (stores : cache.Stores occurrence) (wellFormed : cache.WellFormed)
    (away : occurrence.isHere = false) :
    ∃ before existing after, cache.snapshot = before ++ existing :: after ∧
      existing.key = occurrence.key ∧ (∀ other ∈ before, other.key ≠ occurrence.key) ∧
      ∀ other ∈ after, other.key ≠ occurrence.key := by
  obtain ⟨existing, member, same⟩ := (stores_iff wellFormed away).mp stores
  obtain ⟨before, after, split⟩ := List.append_of_mem member
  have distinct := nodup_key wellFormed
  rw [split, List.map_append, List.map_cons] at distinct
  obtain ⟨_, behind, ahead⟩ := List.nodup_append.mp distinct
  refine ⟨before, existing, after, split, same, fun other early equal => ?_,
    fun other late equal => ?_⟩
  · exact ahead _ (List.mem_map_of_mem early) _ List.mem_cons_self (equal.trans same.symm)
  · refine (List.nodup_cons.mp behind).1 ?_
    rw [same, ← equal]
    exact List.mem_map_of_mem late

/-! ### Adding -/

theorem keeping_of_ne_nil (cache : Cache) (name : String) (version : Version)
    (some : instances ≠ []) :
    cache.keeping name version instances = cache.withStored name version instances := by
  unfold keeping withStored settleVersion Catalog.settle
  rw [if_neg (mt List.isEmpty_iff.mp some),
    if_neg (mt List.isEmpty_iff.mp (Shelf.put_ne_nil _ _ _))]

/-- Putting an instance among those of its identity, one of which is the same, touches the one
with its key. -/
theorem insert_of_same (placed : Placed name version instances)
    (own : occurrence.identity = ⟨name, version⟩) (away : occurrence.isHere = false)
    (known : ∃ existing ∈ instances, existing.same occurrence = true) (now : Instant) :
    insert occurrence now instances = (instances.map fun listed =>
      if listed.key = occurrence.key then listed.touch now else listed, false) := by
  rcases known_cases occurrence instances with isNew | ⟨before, existing, after, rfl, others, same⟩
  · obtain ⟨existing, member, same⟩ := known
    rw [isNew existing member] at same
    cases same
  · have alike {listed : Instance} (member : listed ∈ before ++ existing :: after) :
        listed.same occurrence = true ↔ listed.key = occurrence.key :=
      placed.same_iff_key own away member
    have early : ∀ other ∈ before, other.key ≠ occurrence.key := fun other member equal =>
      ne_true_of_eq_false (others other member)
        ((alike (List.mem_append_left _ member)).mpr equal)
    have late : ∀ other ∈ after, other.key ≠ occurrence.key := fun other member equal => by
      have again := (alike (List.mem_append_right before (List.mem_cons_of_mem _ member))).mpr equal
      exact placed.apart (List.mem_append_right before member)
        (((Instance.same_iff_of_remote away).mp again).trans
          ((Instance.same_iff_of_remote away).mp same).symm)
    have stored := (alike (List.mem_append_right before List.mem_cons_self)).mp same
    rw [insert_of_known others same, List.map_append, List.map_cons, map_touch_of_apart early,
      if_pos stored, map_touch_of_apart late]

/-- Adding what is stored marks its entry as seen now, and says that it is not new. -/
theorem Stores.add_eq (stores : cache.Stores occurrence) (wellFormed : cache.WellFormed)
    (away : occurrence.isHere = false) (now : Instant) :
    cache.add occurrence now = (cache.refreshed occurrence.key now, false) := by
  have placed := wellFormed.placed occurrence.identity.name occurrence.identity.version
  obtain ⟨instances, found, stored⟩ := stores.exists_get
  have inserted := insert_of_same placed rfl away stores now
  rw [stored] at inserted
  have some : (instances.map fun listed =>
      if listed.key = occurrence.key then listed.touch now else listed) ≠ [] :=
    mt List.map_eq_nil_iff.mp (wellFormed.entry_of_get found).1
  rw [add, away, stored, inserted]
  refine Prod.ext ?_ rfl
  rw [refreshed, ← keeping_eq_edited wellFormed found fun slot member place placed elsewhere =>
    map_touch_of_apart (key_ne_of_elsewhere wellFormed member placed elsewhere) now]
  exact (keeping_of_ne_nil cache _ _ some).symm

theorem add_of_new (isNew : ¬ cache.Stores occurrence) (away : occurrence.isHere = false)
    (now : Instant) :
    cache.add occurrence now =
      (cache.withStored occurrence.identity.name occurrence.identity.version
        (cache.stored occurrence.identity.name occurrence.identity.version ++ [occurrence]),
        true) := by
  rw [add, away, insert_of_new (not_stores_iff.mp isNew)]
  rfl

/-! ### Removing -/

theorem Stores.remove_eq (stores : cache.Stores occurrence) (wellFormed : cache.WellFormed)
    (away : occurrence.isHere = false) :
    cache.remove occurrence = (cache.dropped occurrence.key, true) := by
  obtain ⟨listed, member, same⟩ := (stores_iff wellFormed away).mp stores
  obtain ⟨instances, found, _⟩ := stores.exists_get
  refine Prod.ext ?_ (snd_remove_of_listed wellFormed away member same)
  rw [remove, found]
  show cache.keeping _ _ (without occurrence instances) = _
  rw [without_eq (wellFormed.entry_of_get found).2 away rfl]
  exact keeping_eq_edited wellFormed found fun slot member place placed elsewhere =>
    filter_key_of_apart (key_ne_of_elsewhere wellFormed member placed elsewhere)

theorem remove_of_new (isNew : ¬ cache.Stores occurrence) (wellFormed : cache.WellFormed)
    (away : occurrence.isHere = false) : cache.remove occurrence = (cache, false) :=
  remove_of_unlisted wellFormed away fun listed member same =>
    isNew ((stores_iff wellFormed away).mpr ⟨listed, member, same⟩)

/-- What is kept of a version does not depend on what was stored there just before. -/
theorem keeping_withStored (cache : Cache) (name : String) (version : Version)
    (first second : List Instance) :
    (cache.withStored name version first).keeping name version second =
      cache.keeping name version second := by
  unfold keeping withStored settleVersion
  simp only [Catalog.shelf_put, if_true, Shelf.erase_put, Shelf.put_put, Catalog.settle_put]

/-- What was added is removed again, with all that came along with it. -/
theorem remove_add (isNew : ¬ cache.Stores occurrence) (wellFormed : cache.WellFormed)
    (away : occurrence.isHere = false) (now : Instant) :
    (cache.add occurrence now).1.remove occurrence = (cache, true) := by
  have others := not_stores_iff.mp isNew
  rw [add_of_new isNew away]
  generalize stored : cache.stored occurrence.identity.name occurrence.identity.version =
    instances at others
  have found : ((cache.withStored occurrence.identity.name occurrence.identity.version
      (instances ++ [occurrence])).catalog.shelf occurrence.identity.name).get?
        occurrence.identity.version = some (instances ++ [occurrence]) := by
    rw [withStored, Catalog.shelf_put, if_pos rfl, Shelf.get_put, if_pos rfl]
  have back : without occurrence (instances ++ [occurrence]) = instances := by
    have self : occurrence.same occurrence = true := (Instance.same_iff_of_remote away).mpr rfl
    unfold without
    rw [List.filter_append, List.filter_cons_of_neg (by simp [self]), List.filter_nil,
      List.append_nil]
    exact List.filter_eq_self.mpr fun other member => by simp [others other member]
  have kept := keeping_self wellFormed occurrence.identity.name occurrence.identity.version
  rw [stored] at kept
  rw [remove, found]
  show (keeping _ _ _ (without occurrence (instances ++ [occurrence])), _) = _
  rw [back, keeping_withStored, kept]
  exact Prod.ext rfl (decide_eq_true (by simp))

/-! ### What is listed then -/

theorem flatMap_filled {Key Item Found : Type} (slots : List (Key × List Item))
    {collect : List Item → List Found} (nothing : collect [] = []) :
    ((slots.filter fun slot => !slot.2.isEmpty).flatMap fun slot => collect slot.2) =
      slots.flatMap fun slot => collect slot.2 := by
  induction slots with
  | nil => rfl
  | cons slot others inductionHypothesis =>
    rw [List.flatMap_cons, ← inductionHypothesis]
    by_cases empty : slot.2 = []
    · rw [List.filter_cons_of_neg (by simp [empty]), empty, nothing, List.nil_append]
    · rw [List.filter_cons_of_pos (by simp [empty]), List.flatMap_cons]

/-- Editing the lists of a cache edits what it lists, piece by piece. -/
theorem snapshot_edited (cache : Cache) {edit : List Instance → List Instance} :
    (cache.edited edit).snapshot =
      cache.catalog.flatMap fun slot => slot.2.flatMap fun place => edit place.2 := by
  rw [snapshot_eq]
  refine (flatMap_filled _ List.flatMap_nil).trans ?_
  rw [List.flatMap_map]
  refine List.flatMap_congr fun slot _ => ?_
  refine (flatMap_filled _ (rfl : id ([] : List Instance) = [])).trans ?_
  rw [List.flatMap_map]
  rfl

theorem snapshot_refreshed (cache : Cache) (key : Instance.Key)
    (now : Instant) :
    (cache.refreshed key now).snapshot =
      cache.snapshot.map fun listed => if listed.key = key then listed.touch now else listed := by
  rw [refreshed, snapshot_edited, snapshot_eq, List.map_flatMap]
  exact List.flatMap_congr fun slot _ => List.map_flatMap.symm

/-- Of what is listed, only the entry that is stored already is touched by adding and taken out by
removing. -/
theorem Stores.exists_entry (stores : cache.Stores occurrence) (wellFormed : cache.WellFormed)
    (away : occurrence.isHere = false) (now : Instant) :
    ∃ before existing after, cache.snapshot = before ++ existing :: after ∧
      existing.key = occurrence.key ∧
      (cache.add occurrence now).1.snapshot = before ++ existing.touch now :: after ∧
      (cache.remove occurrence).1.snapshot = before ++ after := by
  obtain ⟨before, existing, after, split, same, early, late⟩ :=
    stores.exists_split wellFormed away
  refine ⟨before, existing, after, split, same, ?_, ?_⟩
  · rw [stores.add_eq wellFormed away, snapshot_refreshed, split, List.map_append, List.map_cons,
      map_touch_of_apart early, if_pos same, map_touch_of_apart late]
  · rw [snapshot_remove wellFormed away, split, List.filter_append,
      List.filter_cons_of_neg (by simp [same]), filter_key_of_apart early, filter_key_of_apart late]

theorem Stores.size_remove (stores : cache.Stores occurrence) (wellFormed : cache.WellFormed)
    (away : occurrence.isHere = false) :
    (cache.remove occurrence).1.size + 1 = cache.size := by
  obtain ⟨before, existing, after, split, _, _, removed⟩ :=
    stores.exists_entry wellFormed away Instant.zero
  rw [size_eq, size_eq, split, removed]
  simp only [List.length_append, List.length_cons, Nat.add_assoc]

/-- Removing takes back what adding added, so adding adds as much as removing takes. -/
theorem size_add (isNew : ¬ cache.Stores occurrence) (wellFormed : cache.WellFormed)
    (away : occurrence.isHere = false) (now : Instant) :
    (cache.add occurrence now).1.size = cache.size + 1 := by
  have removed := remove_add isNew wellFormed away now
  have stores : (cache.add occurrence now).1.Stores occurrence := by
    by_contra missing
    rw [remove_of_new missing (wellFormed_add wellFormed occurrence now) away] at removed
    exact Bool.false_ne_true (congrArg Prod.snd removed)
  have counted := stores.size_remove (wellFormed_add wellFormed occurrence now) away
  rw [removed] at counted
  exact counted.symm

/-! ### Every cache that a node comes to have -/

/-- Adding and removing an instance on another node are exact inverses on one entry. Where none
that is the same is stored under the identity of the instance, adding it puts exactly one entry
at the end of those of the identity, and says so; removing it then restores the cache exactly.
Where one is stored, adding the instance only marks that entry as seen now. Removing says whether
one is stored; if so, exactly that entry goes, and if not, nothing changes, whatever is stored
under other identities. Adding an instance on this node changes nothing. -/
theorem entry_undone (arises : cache.Arises) (away : occurrence.isHere = false) (now : Instant) :
    (¬ cache.Stores occurrence →
      (cache.add occurrence now).2 = true ∧
      (cache.add occurrence now).1.stored occurrence.identity.name occurrence.identity.version =
        cache.stored occurrence.identity.name occurrence.identity.version ++ [occurrence] ∧
      (cache.add occurrence now).1.size = cache.size + 1 ∧
      (cache.add occurrence now).1.remove occurrence = (cache, true)) ∧
    (cache.Stores occurrence →
      cache.add occurrence now = (cache.refreshed occurrence.key now, false)) ∧
    ((cache.remove occurrence).2 = true ↔ cache.Stores occurrence) ∧
    (cache.Stores occurrence →
      (cache.remove occurrence).1 = cache.dropped occurrence.key ∧
      (cache.remove occurrence).1.size + 1 = cache.size) ∧
    (¬ cache.Stores occurrence → (cache.remove occurrence).1 = cache) ∧
    (cache.Stores occurrence →
      ∃ before existing after, cache.snapshot = before ++ existing :: after ∧
        existing.key = occurrence.key ∧
        (cache.add occurrence now).1.snapshot = before ++ existing.touch now :: after ∧
        (cache.remove occurrence).1.snapshot = before ++ after) ∧
    ∀ own : Instance, own.isHere = true → cache.add own now = (cache, false) := by
  have wellFormed := arises.wellFormed
  refine ⟨fun isNew => ⟨?_, ?_, size_add isNew wellFormed away now,
      remove_add isNew wellFormed away now⟩,
    fun stores => stores.add_eq wellFormed away now, ⟨fun removed => ?_, fun stores => ?_⟩,
    fun stores => ⟨?_, stores.size_remove wellFormed away⟩, fun isNew => ?_,
    fun stores => stores.exists_entry wellFormed away now, fun own here => ?_⟩
  · rw [add_of_new isNew away]
  · rw [add_of_new isNew away, stored_withStored, if_pos ⟨rfl, rfl⟩]
  · by_contra isNew
    rw [remove_of_new isNew wellFormed away] at removed
    cases removed
  · rw [stores.remove_eq wellFormed away]
  · rw [stores.remove_eq wellFormed away]
  · rw [remove_of_new isNew wellFormed away]
  · rw [add, if_pos here]

/-- The agent and node of a farewell are not stored under another version of it, which can be
tried out without a trace. Of three greetings, the one in the middle is touched in its place, with
the rank that it came with, and is the only one to go. -/
theorem entry_undone_stocked :
    ¬ stocked.resolver.cache.Stores (offered "farewell" ⟨2, 0, 0⟩ 6 1) ∧
    (stocked.resolver.cache.remove (offered "farewell" ⟨2, 0, 0⟩ 6 1)).1 =
      stocked.resolver.cache ∧
    (stocked.resolver.cache.add (offered "farewell" ⟨2, 0, 0⟩ 6 1) stocked.now).1.remove
      (offered "farewell" ⟨2, 0, 0⟩ 6 1) = (stocked.resolver.cache, true) ∧
    (stocked.resolver.cache.add (offered "greeting" ⟨1, 1, 0⟩ 3 9) stocked.now).1.stored "greeting"
      ⟨1, 1, 0⟩ = [(offered "greeting" ⟨1, 1, 0⟩ 2 7).touch ⟨4⟩,
        (offered "greeting" ⟨1, 1, 0⟩ 3 1).touch ⟨8⟩,
        (offered "greeting" ⟨1, 1, 0⟩ 4 7).touch ⟨4⟩] ∧
    (stocked.resolver.cache.remove (offered "greeting" ⟨1, 1, 0⟩ 3 9)).1.size + 1 =
      stocked.resolver.cache.size := by
  have away : (offered "farewell" ⟨2, 0, 0⟩ 6 1).isHere = false := rfl
  have alsoAway : (offered "greeting" ⟨1, 1, 0⟩ 3 9).isHere = false := rfl
  obtain ⟨added, _, _, _, unchanged, _⟩ := entry_undone arises_stocked away stocked.now
  obtain ⟨_, refreshed, _, removed, _⟩ := entry_undone arises_stocked alsoAway stocked.now
  have isNew : ¬ stocked.resolver.cache.Stores (offered "farewell" ⟨2, 0, 0⟩ 6 1) := by
    rw [not_stores_iff]
    decide
  have stores : stocked.resolver.cache.Stores (offered "greeting" ⟨1, 1, 0⟩ 3 9) := by
    unfold Stores
    decide
  refine ⟨isNew, unchanged isNew, (added isNew).2.2.2, ?_, (removed stores).2⟩
  rw [refreshed stores]
  decide

end ServiceDiscovery.Cache
