/-
This file proves that registering and unregistering are safe and undo each other. Both work in
the containers of a name: registering opens a shelf before it knows whether it will put anything
there, and unregistering takes an entry out before it looks whether the shelf is empty. Whoever
holds the identity decides what comes of it: another handle is refused and leaves no trace, the
holder adds nothing by registering and takes exactly its entry out by unregistering, and where
nobody holds it, registering adds exactly one entry, which the same handle can take back without
anything being left.
-/

import ServiceDiscovery.Proofs.Directory
import ServiceDiscovery.Proofs.Removal

namespace ServiceDiscovery.Registry

variable {registry : Registry} {identity : Identity} {handle : Handle} {now : Instant}
  {occurrence : Instance}

/-! ### In the containers -/

/-- The registry with a shelf for the name, an empty one if there was none. -/
def opened (registry : Registry) (name : String) : Registry :=
  match registry.catalog.get? name with
  | some _ => registry
  | none => ⟨registry.catalog.put name []⟩

/-- The registry without the name, if its shelf is empty. -/
def pruned (registry : Registry) (name : String) : Registry :=
  match registry.catalog.get? name with
  | some [] => ⟨registry.catalog.erase name⟩
  | _ => registry

/-- Registering, one change of the containers after the other. What was changed by then stays
changed when the handle is refused. -/
def registerInPlace (registry : Registry) (identity : Identity) (handle : Handle)
    (now : Instant) : Registry × Except DiscoveryError (List Notice) :=
  let opened := registry.opened identity.name
  let shelf := opened.catalog.shelf identity.name
  match shelf.get? identity.version with
  | some existing =>
    (opened, if existing.hasHandle handle then .ok [] else .error (.conflict identity))
  | none =>
    (⟨opened.catalog.put identity.name
        (shelf.put identity.version (Instance.here identity handle now))⟩,
      .ok [.deployed (Instance.here identity handle now)])

/-- Unregistering, one change of the containers after the other. -/
def unregisterInPlace (registry : Registry) (identity : Identity) (handle : Handle) :
    Registry × Except DiscoveryError (List Notice) :=
  match registry.catalog.get? identity.name with
  | none => (registry, .ok [])
  | some shelf =>
    match shelf.get? identity.version with
    | none => (registry, .ok [])
    | some existing =>
      if existing.hasHandle handle then
        let emptied : Registry :=
          ⟨registry.catalog.put identity.name (shelf.erase identity.version)⟩
        (emptied.pruned identity.name, .ok [.ended existing])
      else (registry, .error (.conflict identity))

/-- What a change leaves and what comes of it; a refused change leaves everything. -/
def leaving (registry : Registry) :
    Except DiscoveryError (Registry × List Notice) → Registry × Except DiscoveryError (List Notice)
  | .ok (next, notices) => (next, .ok notices)
  | .error error => (registry, .error error)

theorem shelf_opened (registry : Registry) (name : String) :
    (registry.opened name).catalog.shelf name = registry.catalog.shelf name := by
  unfold opened
  cases found : registry.catalog.get? name with
  | some shelf => rfl
  | none =>
    show Catalog.shelf (Catalog.put name [] registry.catalog) name = _
    rw [Catalog.shelf_put, if_pos rfl, Catalog.shelf, found]
    rfl

theorem opened_of_found {name : String} {version : Version}
    (found : registry.lookupExact name version = some occurrence) :
    registry.opened name = registry := by
  unfold opened
  cases known : registry.catalog.get? name with
  | some shelf => rfl
  | none =>
    rw [lookupExact, known] at found
    cases found

theorem put_opened (registry : Registry) (name : String) (shelf : Shelf Instance) :
    (registry.opened name).catalog.put name shelf = registry.catalog.put name shelf := by
  unfold opened
  split
  · rfl
  · exact Catalog.put_put registry.catalog name [] shelf

/-- The shelf that is opened too early is filled at once, so nobody ever sees it. -/
theorem registerInPlace_eq (registry : Registry) (identity : Identity) (handle : Handle)
    (now : Instant) :
    registry.registerInPlace identity handle now =
      registry.leaving (registry.register identity handle now) := by
  unfold registerInPlace register
  simp only [shelf_opened, put_opened, ← lookupExact_eq]
  cases found : registry.lookupExact identity.name identity.version with
  | some existing =>
    simp only [opened_of_found found]
    split <;> rfl
  | none => rfl

theorem pruned_put (registry : Registry) (name : String) (shelf : Shelf Instance) :
    (⟨registry.catalog.put name shelf⟩ : Registry).pruned name =
      ⟨registry.catalog.settle name shelf⟩ := by
  have found : Catalog.get? (Catalog.put name shelf registry.catalog) name = some shelf := by
    rw [Catalog.get_put, if_pos rfl]
  unfold pruned Catalog.settle
  rw [found]
  cases shelf with
  | nil => exact congrArg Registry.mk (Catalog.erase_put registry.catalog name [])
  | cons slot others => rfl

/-- An entry that is taken out takes an empty shelf along. -/
theorem unregisterInPlace_eq (registry : Registry) (identity : Identity) (handle : Handle) :
    registry.unregisterInPlace identity handle =
      registry.leaving (registry.unregister identity handle) := by
  unfold unregisterInPlace unregister lookupExact
  cases known : registry.catalog.get? identity.name with
  | none => rfl
  | some shelf =>
    have own : registry.catalog.shelf identity.name = shelf := by
      rw [Catalog.shelf, known]
      rfl
    show (match shelf.get? identity.version with | none => _ | some existing => _) =
      registry.leaving (match shelf.get? identity.version with | some existing => _ | none => _)
    cases shelf.get? identity.version with
    | none => rfl
    | some existing =>
      simp only [own, pruned_put]
      split <;> rfl

/-! ### Who holds an identity -/

/-- The identity is registered under the handle. -/
def HeldBy (registry : Registry) (identity : Identity) (handle : Handle) : Prop :=
  ∃ current, registry.handleOf identity = .ok current ∧ current.key = handle.key

/-- The identity is registered under a handle with another key, whatever its agent. -/
def HeldByOther (registry : Registry) (identity : Identity) (handle : Handle) : Prop :=
  ∃ current, registry.handleOf identity = .ok current ∧ current.key ≠ handle.key

/-- What is registered under all identities but one is the same in both registries. -/
def SameBut (registry next : Registry) (identity : Identity) : Prop :=
  ∀ other, other ≠ identity →
    next.lookupExact other.name other.version = registry.lookupExact other.name other.version

theorem held_cases (wellFormed : registry.WellFormed) (identity : Identity) (handle : Handle) :
    registry.HeldBy identity handle ∨ registry.HeldByOther identity handle ∨
      registry.lookupExact identity.name identity.version = none := by
  cases found : registry.lookupExact identity.name identity.version with
  | none => exact Or.inr (Or.inr rfl)
  | some existing =>
    obtain ⟨own, here⟩ := lookupExact_sound wellFormed found
    obtain rfl : existing.identity = identity := own
    obtain ⟨current, held, _⟩ := handleOf_of_lookup found here
    by_cases same : current.key = handle.key
    · exact Or.inl ⟨current, held, same⟩
    · exact Or.inr (Or.inl ⟨current, held, same⟩)

theorem HeldBy.exists_existing (held : registry.HeldBy identity handle) :
    ∃ existing, registry.lookupExact identity.name identity.version = some existing ∧
      existing.hasHandle handle = true := by
  obtain ⟨current, known, same⟩ := held
  obtain ⟨existing, found, own⟩ := exists_of_handleOf known
  exact ⟨existing, found, (own handle).trans (beq_iff_eq.mpr same)⟩

theorem HeldByOther.exists_existing (held : registry.HeldByOther identity handle) :
    ∃ existing, registry.lookupExact identity.name identity.version = some existing ∧
      existing.hasHandle handle = false := by
  obtain ⟨current, known, different⟩ := held
  obtain ⟨existing, found, own⟩ := exists_of_handleOf known
  exact ⟨existing, found, (own handle).trans (beq_eq_false_iff_ne.mpr different)⟩

/-! ### Another handle -/

theorem HeldByOther.register_eq (held : registry.HeldByOther identity handle) (now : Instant) :
    registry.register identity handle now = .error (.conflict identity) := by
  obtain ⟨existing, found, foreign⟩ := held.exists_existing
  rw [register, found]
  exact if_neg (foreign ▸ Bool.false_ne_true)

theorem HeldByOther.unregister_eq (held : registry.HeldByOther identity handle) :
    registry.unregister identity handle = .error (.conflict identity) := by
  obtain ⟨existing, found, foreign⟩ := held.exists_existing
  rw [unregister, found]
  exact if_neg (foreign ▸ Bool.false_ne_true)

/-! ### The holder -/

theorem HeldBy.register_eq (held : registry.HeldBy identity handle) (now : Instant) :
    registry.register identity handle now = .ok (registry, []) := by
  obtain ⟨current, known, same⟩ := held
  exact register_of_held known (beq_iff_eq.mpr same) now

theorem HeldBy.unregister_eq (held : registry.HeldBy identity handle) :
    ∃ existing, registry.lookupExact identity.name identity.version = some existing ∧
      registry.unregister identity handle =
        .ok (registry.withoutIdentity identity, [.ended existing]) := by
  obtain ⟨existing, found, own⟩ := held.exists_existing
  refine ⟨existing, found, ?_⟩
  rw [unregister, found]
  exact if_pos own

theorem sameBut_withoutIdentity (registry : Registry) (identity : Identity) :
    registry.SameBut (registry.withoutIdentity identity) identity := fun other different => by
  rw [lookupExact_withoutIdentity, if_neg (Ne.symm different)]

/-! ### Nobody -/

theorem register_of_free (free : registry.lookupExact identity.name identity.version = none)
    (handle : Handle) (now : Instant) :
    registry.register identity handle now =
      .ok (registry.withInstance identity (Instance.here identity handle now),
        [.deployed (Instance.here identity handle now)]) := by
  rw [register, free]
  rfl

theorem sameBut_withInstance (registry : Registry) (identity : Identity)
    (occurrence : Instance) :
    registry.SameBut (registry.withInstance identity occurrence) identity :=
  fun other different => by
    rw [lookupExact_withInstance, if_neg (Ne.symm different)]

theorem heldBy_withInstance (registry : Registry) (identity : Identity) (handle : Handle)
    (now : Instant) :
    (registry.withInstance identity (Instance.here identity handle now)).HeldBy identity
      handle :=
  ⟨handle, (handleOf_withInstance _ _ _ _ _).trans (if_pos rfl), rfl⟩

/-- The entry that is put in and taken out again leaves the shelf as it was, and the shelf goes
with it if it came with it. -/
theorem withoutIdentity_withInstance (wellFormed : registry.WellFormed)
    (free : registry.lookupExact identity.name identity.version = none) (occurrence : Instance) :
    (registry.withInstance identity occurrence).withoutIdentity identity = registry := by
  rw [lookupExact_eq] at free
  unfold withoutIdentity withInstance
  simp only [Catalog.shelf_put, if_true, Catalog.settle_put, Shelf.erase_put,
    Shelf.erase_of_absent free]
  exact congrArg Registry.mk (wellFormed.settle_self identity.name)

/-! ### Every registry that a node comes to have -/

theorem versions_ne_nil (wellFormed : registry.WellFormed) {name : String}
    (listed : name ∈ registry.names) : registry.versions name ≠ [] := by
  obtain ⟨slot, member, rfl⟩ := List.mem_map.mp (List.mem_mergeSort.mp listed)
  unfold versions Shelf.versions
  rw [wellFormed.shelf_of_mem member]
  exact List.reverse_ne_nil_iff.mpr (mt List.map_eq_nil_iff.mp (wellFormed.nonempty slot member))

/-- The identity is held by another handle if and only if the handle is refused. -/
theorem register_eq_error_iff (wellFormed : registry.WellFormed) {error : DiscoveryError} :
    registry.register identity handle now = .error error ↔
      registry.HeldByOther identity handle ∧ error = .conflict identity := by
  constructor
  · intro refused
    rcases held_cases wellFormed identity handle with held | held | free
    · rw [held.register_eq] at refused
      cases refused
    · rw [held.register_eq] at refused
      exact ⟨held, (Except.error.inj refused).symm⟩
    · rw [register_of_free free] at refused
      cases refused
  · rintro ⟨held, rfl⟩
    exact held.register_eq now

theorem unregister_eq_error_iff (wellFormed : registry.WellFormed) {error : DiscoveryError} :
    registry.unregister identity handle = .error error ↔
      registry.HeldByOther identity handle ∧ error = .conflict identity := by
  constructor
  · intro refused
    rcases held_cases wellFormed identity handle with held | held | free
    · obtain ⟨existing, _, done⟩ := held.unregister_eq
      rw [done] at refused
      cases refused
    · rw [held.unregister_eq] at refused
      exact ⟨held, (Except.error.inj refused).symm⟩
    · rw [unregister_of_absent free] at refused
      cases refused
  · rintro ⟨held, rfl⟩
    exact held.unregister_eq

/-- Registering and unregistering are safe and undo each other, in every registry that they lead
to. Every name that is listed has a version, and every entry runs here and has the identity that it
stands under. In the containers both come to what they say, with no trace of a change that
is refused; and a handle is refused if and only if another one holds the identity. For the holder,
registering changes nothing, and unregistering takes out exactly the entry of the identity. Where
nobody holds it, unregistering changes nothing, and registering adds exactly one entry; then
unregistering the same handle restores the registry as it was. -/
theorem registration_undone (reachable : registry.Reachable) :
    (∀ name ∈ registry.names, registry.versions name ≠ []) ∧
    (∀ slot ∈ registry.catalog, slot.2 ≠ [] ∧ ∀ place ∈ slot.2,
      place.2.identity = ⟨slot.1, place.1⟩ ∧ place.2.isHere = true) ∧
    ∀ identity handle now,
      registry.registerInPlace identity handle now =
        registry.leaving (registry.register identity handle now) ∧
      registry.unregisterInPlace identity handle =
        registry.leaving (registry.unregister identity handle) ∧
      (∀ error, registry.register identity handle now = .error error ↔
        registry.HeldByOther identity handle ∧ error = .conflict identity) ∧
      (∀ error, registry.unregister identity handle = .error error ↔
        registry.HeldByOther identity handle ∧ error = .conflict identity) ∧
      (registry.HeldByOther identity handle →
        (registry.registerInPlace identity handle now).1 = registry ∧
        (registry.unregisterInPlace identity handle).1 = registry) ∧
      (registry.HeldBy identity handle →
        registry.register identity handle now = .ok (registry, []) ∧
        ∃ existing next, registry.lookupExact identity.name identity.version = some existing ∧
          registry.unregister identity handle = .ok (next, [.ended existing]) ∧
          next.lookupExact identity.name identity.version = none ∧
          registry.SameBut next identity) ∧
      (registry.lookupExact identity.name identity.version = none →
        registry.unregister identity handle = .ok (registry, []) ∧
        ∃ added next, added = Instance.here identity handle now ∧
          registry.register identity handle now = .ok (next, [.deployed added]) ∧
          next.lookupExact identity.name identity.version = some added ∧
          registry.SameBut next identity ∧
          next.unregister identity handle = .ok (registry, [.ended added])) := by
  have wellFormed := reachable.wellFormed
  refine ⟨fun name => versions_ne_nil wellFormed, fun slot member =>
    ⟨wellFormed.nonempty slot member, wellFormed.entries slot member⟩,
    fun identity handle now => ?_⟩
  have registered := registry.registerInPlace_eq identity handle now
  have unregistered := registry.unregisterInPlace_eq identity handle
  refine ⟨registered, unregistered, fun error => register_eq_error_iff wellFormed,
    fun error => unregister_eq_error_iff wellFormed, fun held => ?_, fun held => ?_,
    fun free => ?_⟩
  · rw [registered, unregistered, held.register_eq, held.unregister_eq]
    exact ⟨rfl, rfl⟩
  · obtain ⟨existing, found, done⟩ := held.unregister_eq
    refine ⟨held.register_eq now, existing, _, found, done, ?_,
      registry.sameBut_withoutIdentity identity⟩
    rw [lookupExact_withoutIdentity, if_pos rfl]
  · let added := Instance.here identity handle now
    have stands : (registry.withInstance identity added).lookupExact identity.name
        identity.version = some added := by
      rw [lookupExact_withInstance, if_pos rfl]
    have held := registry.heldBy_withInstance identity handle now
    obtain ⟨existing, found, done⟩ := held.unregister_eq
    rw [stands] at found
    cases found
    rw [withoutIdentity_withInstance wellFormed free] at done
    exact ⟨unregister_of_absent free handle, _, _, rfl, register_of_free free handle now, stands,
      registry.sameBut_withInstance identity _, done⟩

def greeting (minor : UInt32) : Identity :=
  ⟨"greeting", ⟨1, minor, 0⟩⟩

/-- Two versions of the greeting under two handles of one agent. -/
def staffed : Registry :=
  ⟨[("greeting",
    [(⟨1, 0, 0⟩, Instance.here (greeting 0) ⟨1, "greeter"⟩ Instant.zero),
      (⟨1, 1, 0⟩, Instance.here (greeting 1) ⟨2, "greeter"⟩ Instant.zero)])]⟩

theorem reachable_staffed : staffed.Reachable := by
  have first : Reachable ⟨[("greeting",
      [(⟨1, 1, 0⟩, Instance.here (greeting 1) ⟨2, "greeter"⟩ Instant.zero)])]⟩ :=
    .register .empty (show Registry.empty.register (greeting 1) ⟨2, "greeter"⟩ Instant.zero =
      .ok (_, _) from rfl)
  exact .register first (show Registry.register _ (greeting 0) ⟨1, "greeter"⟩ Instant.zero =
    .ok (_, _) from rfl)

/-- A handle is refused although its agent holds the version, the holder takes its version out, and
what is free can be tried out. -/
theorem registration_undone_staffed :
    staffed.Reachable ∧
    staffed.register (greeting 0) ⟨2, "greeter"⟩ ⟨9⟩ = .error (.conflict (greeting 0)) ∧
    (staffed.unregisterInPlace (greeting 0) ⟨2, "greeter"⟩).1 = staffed ∧
    (∃ existing next, staffed.unregister (greeting 0) ⟨1, "other"⟩ = .ok (next, [.ended existing]) ∧
      next.lookupExact "greeting" ⟨1, 0, 0⟩ = none ∧
      next.lookupExact "greeting" ⟨1, 1, 0⟩ = staffed.lookupExact "greeting" ⟨1, 1, 0⟩) ∧
    ∃ added next, staffed.register ⟨"farewell", ⟨1, 0, 0⟩⟩ ⟨3, "greeter"⟩ ⟨9⟩ =
        .ok (next, [.deployed added]) ∧
      next.unregister ⟨"farewell", ⟨1, 0, 0⟩⟩ ⟨3, "greeter"⟩ = .ok (staffed, [.ended added]) := by
  obtain ⟨_, _, safe⟩ := registration_undone reachable_staffed
  have other : staffed.HeldByOther (greeting 0) ⟨2, "greeter"⟩ :=
    ⟨⟨1, "greeter"⟩, by rfl, by decide⟩
  have own : staffed.HeldBy (greeting 0) ⟨1, "other"⟩ := ⟨⟨1, "greeter"⟩, by rfl, by rfl⟩
  obtain ⟨_, _, refused, _, traceless, _⟩ := safe (greeting 0) ⟨2, "greeter"⟩ ⟨9⟩
  obtain ⟨_, _, _, _, _, holder, _⟩ := safe (greeting 0) ⟨1, "other"⟩ ⟨9⟩
  obtain ⟨_, existing, next, _, taken, gone, kept⟩ := holder own
  obtain ⟨_, _, _, _, _, _, free⟩ := safe ⟨"farewell", ⟨1, 0, 0⟩⟩ ⟨3, "greeter"⟩ ⟨9⟩
  obtain ⟨_, added, extended, _, put, _, _, restored⟩ := free (by rfl)
  exact ⟨reachable_staffed, (refused _).mpr ⟨other, rfl⟩, (traceless other).2,
    ⟨existing, next, taken, gone, kept (greeting 1) (by decide)⟩, added, extended, put, restored⟩

end ServiceDiscovery.Registry
