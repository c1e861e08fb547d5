/-
This file proves what the registry of a node holds. Under every identity there is at most one
instance, it runs on this node, and it carries exactly that identity; registering and
unregistering keep this. A lookup therefore only finds what is registered under the identity
that it finds, and a request is served only by a version that fits it.
-/

import ServiceDiscovery.Registry
import ServiceDiscovery.Proofs.Shelf

namespace ServiceDiscovery.Registry

theorem lookupExact_eq (registry : Registry) (name : String) (version : Version) :
    registry.lookupExact name version = (registry.catalog.shelf name).get? version := by
  unfold lookupExact Catalog.shelf
  cases registry.catalog.get? name <;> rfl

theorem lookupCompatible_eq (registry : Registry) (name : String) (constraint : Constraint) :
    registry.lookupCompatible name constraint =
      ((registry.catalog.shelf name).reverse.find? fun slot => constraint.fits slot.1).map
        Prod.snd := by
  unfold lookupCompatible Catalog.shelf
  cases registry.catalog.get? name <;> rfl

/-! ### What one operation does -/

/-- The registry with an instance under an identity. -/
def withInstance (registry : Registry) (identity : Identity) (occurrence : Instance) : Registry :=
  ⟨registry.catalog.put identity.name
    ((registry.catalog.shelf identity.name).put identity.version occurrence)⟩

/-- The registry without anything under an identity. -/
def withoutIdentity (registry : Registry) (identity : Identity) : Registry :=
  ⟨registry.catalog.settle identity.name
    ((registry.catalog.shelf identity.name).erase identity.version)⟩

/-- Registering leaves the registry as it is and says nothing, or adds one instance where there
was none and says so. -/
theorem register_cases {registry registry' : Registry} {identity : Identity} {handle : Handle}
    {now : Instant} {notices : List Notice}
    (done : registry.register identity handle now = .ok (registry', notices)) :
    (registry' = registry ∧ notices = []) ∨
      registry.lookupExact identity.name identity.version = none ∧
        registry' = registry.withInstance identity (Instance.here identity handle now) ∧
        notices = [.deployed (Instance.here identity handle now)] := by
  unfold register at done
  split at done
  · split at done
    · cases done
      exact Or.inl ⟨rfl, rfl⟩
    · cases done
  · rename_i free
    cases done
    exact Or.inr ⟨free, rfl, rfl⟩

/-- Unregistering leaves the registry as it is and says nothing, or takes one instance out and
says so. -/
theorem unregister_cases {registry registry' : Registry} {identity : Identity} {handle : Handle}
    {notices : List Notice}
    (done : registry.unregister identity handle = .ok (registry', notices)) :
    (registry' = registry ∧ notices = []) ∨
      ∃ existing, registry.lookupExact identity.name identity.version = some existing ∧
        registry' = registry.withoutIdentity identity ∧ notices = [.ended existing] := by
  unfold unregister at done
  split at done
  · rename_i existing found
    split at done
    · cases done
      exact Or.inr ⟨existing, found, rfl, rfl⟩
    · cases done
  · cases done
    exact Or.inl ⟨rfl, rfl⟩

theorem eq_iff_of_name {identity other : Identity} (named : identity.name = other.name) :
    identity = other ↔ identity.version = other.version := by
  rw [Identity.mk.injEq]
  exact and_iff_right named

theorem lookupExact_withInstance (registry : Registry) (identity : Identity)
    (occurrence : Instance) (other : Identity) :
    (registry.withInstance identity occurrence).lookupExact other.name other.version =
      if identity = other then some occurrence
      else registry.lookupExact other.name other.version := by
  rw [lookupExact_eq, lookupExact_eq, withInstance, Catalog.shelf_put]
  by_cases named : identity.name = other.name
  · rw [if_pos named, Shelf.get_put, named]
    simp only [eq_iff_of_name named]
  · rw [if_neg named, if_neg fun same => named (congrArg Identity.name same)]

theorem lookupExact_withoutIdentity (registry : Registry) (identity other : Identity) :
    (registry.withoutIdentity identity).lookupExact other.name other.version =
      if identity = other then none else registry.lookupExact other.name other.version := by
  rw [lookupExact_eq, lookupExact_eq, withoutIdentity, Catalog.shelf_settle]
  by_cases named : identity.name = other.name
  · rw [if_pos named, Shelf.get_erase, named]
    simp only [eq_iff_of_name named]
  · rw [if_neg named, if_neg fun same => named (congrArg Identity.name same)]

theorem handleOf_withInstance (registry : Registry) (identity : Identity) (handle : Handle)
    (now : Instant) (other : Identity) :
    (registry.withInstance identity (Instance.here identity handle now)).handleOf other =
      if identity = other then .ok handle else registry.handleOf other := by
  unfold handleOf
  rw [lookupExact_withInstance]
  by_cases same : identity = other
  · rw [if_pos same, if_pos same]
    rfl
  · rw [if_neg same, if_neg same]

theorem handleOf_withoutIdentity (registry : Registry) (identity other : Identity) :
    (registry.withoutIdentity identity).handleOf other =
      if identity = other then .error (.notFound other.asRequest none)
      else registry.handleOf other := by
  unfold handleOf
  rw [lookupExact_withoutIdentity]
  by_cases same : identity = other
  · rw [if_pos same, if_pos same]
    rfl
  · rw [if_neg same, if_neg same]

/-! ### What every registry satisfies -/

/-- The instance runs here and has the identity that it is found under. -/
def Holds (name : String) (version : Version) (occurrence : Instance) : Prop :=
  occurrence.identity = ⟨name, version⟩ ∧ occurrence.isHere = true

/-- The registry is as its operations leave it. -/
def WellFormed (registry : Registry) : Prop :=
  registry.catalog.WellFormed Holds

theorem wellFormed_register {registry registry' : Registry} (wellFormed : registry.WellFormed)
    {identity : Identity} {handle : Handle} {now : Instant} {notices : List Notice}
    (done : registry.register identity handle now = .ok (registry', notices)) :
    registry'.WellFormed := by
  rcases register_cases done with ⟨rfl, _⟩ | ⟨_, rfl, _⟩
  · exact wellFormed
  · refine Catalog.WellFormed.put wellFormed (Shelf.put_ne_nil _ _ _)
      (Shelf.ascending_put (wellFormed.ascending_shelf _) _ _) fun place member => ?_
    rcases Shelf.mem_put member with rfl | member
    · exact ⟨rfl, rfl⟩
    · exact wellFormed.entries_shelf _ place member

theorem wellFormed_unregister {registry registry' : Registry} (wellFormed : registry.WellFormed)
    {identity : Identity} {handle : Handle} {notices : List Notice}
    (done : registry.unregister identity handle = .ok (registry', notices)) :
    registry'.WellFormed := by
  rcases unregister_cases done with ⟨rfl, _⟩ | ⟨_, _, rfl, _⟩
  · exact wellFormed
  · exact Catalog.WellFormed.settle wellFormed
      (Shelf.ascending_erase (wellFormed.ascending_shelf _) _) fun place member =>
        wellFormed.entries_shelf _ place (List.mem_filter.mp member).1

/-- The registries that registering and unregistering lead to, in any order, at any moments. -/
inductive Reachable : Registry → Prop where
  | empty : Reachable .empty
  | register {registry registry' : Registry} {identity : Identity} {handle : Handle}
      {now : Instant} {notices : List Notice} (reachable : Reachable registry)
      (done : registry.register identity handle now = .ok (registry', notices)) :
      Reachable registry'
  | unregister {registry registry' : Registry} {identity : Identity} {handle : Handle}
      {notices : List Notice} (reachable : Reachable registry)
      (done : registry.unregister identity handle = .ok (registry', notices)) :
      Reachable registry'

theorem Reachable.wellFormed {registry : Registry} (reachable : registry.Reachable) :
    registry.WellFormed := by
  induction reachable with
  | empty => exact Catalog.WellFormed.empty
  | register _ done inductionHypothesis => exact wellFormed_register inductionHypothesis done
  | unregister _ done inductionHypothesis => exact wellFormed_unregister inductionHypothesis done

/-! ### What lookups find -/

/-- What a lookup finds is registered under its own identity. -/
theorem lookupExact_sound {registry : Registry} (wellFormed : registry.WellFormed)
    {name : String} {version : Version} {occurrence : Instance}
    (found : registry.lookupExact name version = some occurrence) :
    occurrence.identity = ⟨name, version⟩ ∧ occurrence.isHere = true := by
  rw [lookupExact_eq] at found
  exact wellFormed.entry_of_get found

/-- The newest version that fits is found under its own identity. -/
theorem lookupCompatible_sound {registry : Registry} (wellFormed : registry.WellFormed)
    {name : String} {constraint : Constraint} {occurrence : Instance}
    (found : registry.lookupCompatible name constraint = some occurrence) :
    ∃ version, constraint.fits version = true ∧
      registry.lookupExact name version = some occurrence := by
  rw [lookupCompatible_eq] at found
  obtain ⟨slot, first, rfl⟩ := Option.map_eq_some_iff.mp found
  have fits := List.find?_some first
  refine ⟨slot.1, fits, ?_⟩
  rw [lookupExact_eq]
  exact Shelf.get_of_mem (wellFormed.ascending_shelf name)
    (List.mem_reverse.mp (List.mem_of_find?_eq_some first))

/-- The instance has the requested name and a version that fits, the pinned one if the request
is exact. -/
def Answers (request : Request) (exact : Bool) (identity : Identity) : Prop :=
  identity.name = request.name ∧ request.constraint.fits identity.version = true ∧
    (exact = true → request.constraint.pinned? = some identity.version)

/-- What serves a request answers it, and is registered under its own identity. -/
theorem serves_sound {registry : Registry} (wellFormed : registry.WellFormed) {request : Request}
    {exact : Bool} {occurrence : Instance}
    (found : registry.serves request exact = some occurrence) :
    Answers request exact occurrence.identity ∧ occurrence.isHere = true ∧
      registry.lookupExact occurrence.identity.name occurrence.identity.version =
        some occurrence := by
  unfold serves at found
  split at found
  · obtain ⟨version, pinned, found⟩ := Option.bind_eq_some_iff.mp found
    obtain ⟨identity, here⟩ := lookupExact_sound wellFormed found
    rw [Answers, identity]
    exact ⟨⟨rfl, Constraint.fits_of_pinned pinned, fun _ => pinned⟩, here, found⟩
  · rename_i inexact
    obtain ⟨version, fits, found⟩ := lookupCompatible_sound wellFormed found
    obtain ⟨identity, here⟩ := lookupExact_sound wellFormed found
    rw [Answers, identity]
    exact ⟨⟨rfl, fits, fun exact => absurd exact inexact⟩, here, found⟩

/-- What is registered on a node is held by a handle of its agent. -/
theorem handleOf_of_lookup {registry : Registry} {occurrence : Instance}
    (found : registry.lookupExact occurrence.identity.name occurrence.identity.version =
      some occurrence) (here : occurrence.isHere = true) :
    ∃ handle, registry.handleOf occurrence.identity = .ok handle ∧
      handle.agent = occurrence.agent := by
  obtain ⟨identity, place, lastSeen, responseTime⟩ := occurrence
  cases place with
  | remote agent node => cases here
  | here handle =>
    refine ⟨handle, ?_, rfl⟩
    rw [handleOf, found]
    rfl

end ServiceDiscovery.Registry
