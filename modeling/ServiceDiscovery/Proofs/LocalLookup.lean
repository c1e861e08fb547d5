/-
This file proves that a node finds for itself exactly what it offers to others. A shelf is in the
order of its versions, so the first one that fits from the end is the newest of all registered
ones that fit. What an exact request addresses fits too, so whoever finds it exactly finds it, or
something newer, otherwise. A resolution that stays on its node comes to the same instance as
the part of the node that answers questions, though each has a decision of its own between the
two kinds of request.
-/

import ServiceDiscovery.Proofs.Answering
import ServiceDiscovery.Proofs.Directory
import ServiceDiscovery.Proofs.FittingVersions
import ServiceDiscovery.Proofs.Policy

namespace ServiceDiscovery

/-! ### The newest of a shelf -/

namespace Shelf

variable {Entry : Type} {shelf : Shelf Entry} {wanted : Version → Bool} {slot : Version × Entry}

/-- What is found from the end of a shelf is newer than all else that could be found. -/
theorem newest_of_find_reverse (ascending : Ascending shelf)
    (found : (shelf.reverse.find? fun slot => wanted slot.1) = some slot) :
    slot ∈ shelf ∧ wanted slot.1 = true ∧
      ∀ other ∈ shelf, wanted other.1 = true → other.1 ≤ slot.1 := by
  obtain ⟨fits, before, after, split, refused⟩ := List.find?_eq_some_iff_append.mp found
  have descending : shelf.reverse.Pairwise fun first second => second.1.place < first.1.place :=
    List.pairwise_reverse.mpr ascending
  rw [split] at descending
  have below := (List.pairwise_cons.mp (List.pairwise_append.mp descending).2.1).1
  refine ⟨List.mem_reverse.mp (List.mem_of_find?_eq_some found), fits,
    fun other member otherFits => ?_⟩
  rw [← List.mem_reverse, split] at member
  rcases List.mem_append.mp member with early | late
  · have unfit := refused other early
    rw [otherFits] at unfit
    exact absurd unfit (by decide)
  · rcases List.mem_cons.mp late with rfl | later
    · exact le_refl _
    · exact Version.le_iff_place.mpr (Nat.le_of_lt (below other later))

theorem find_reverse_eq_some_iff (ascending : Ascending shelf) :
    (shelf.reverse.find? fun slot => wanted slot.1) = some slot ↔
      slot ∈ shelf ∧ wanted slot.1 = true ∧
        ∀ other ∈ shelf, wanted other.1 = true → other.1 ≤ slot.1 := by
  refine ⟨newest_of_find_reverse ascending, fun ⟨member, fits, newest⟩ => ?_⟩
  cases found : shelf.reverse.find? fun slot => wanted slot.1 with
  | none =>
    have unfit := List.find?_eq_none.mp found slot (List.mem_reverse.mpr member)
    exact absurd fits unfit
  | some other =>
    obtain ⟨otherMember, otherFits, otherNewest⟩ := newest_of_find_reverse ascending found
    have version : other.1 = slot.1 :=
      le_antisymm (newest other otherMember otherFits) (otherNewest slot member fits)
    have entry := get_of_mem ascending otherMember
    rw [version, get_of_mem ascending member] at entry
    exact congrArg some (Prod.ext version (Option.some.inj entry).symm)

end Shelf

/-! ### What serves a request -/

namespace Registry

variable {registry : Registry} {request : Request} {occurrence : Instance}

/-- What stands on the shelf of a name is what is registered with that name. -/
theorem mem_shelf_iff (wellFormed : registry.WellFormed) {name : String}
    {slot : Version × Instance} :
    slot ∈ registry.catalog.shelf name ↔
      slot.2 ∈ registry.snapshot ∧ slot.2.identity = ⟨name, slot.1⟩ := by
  rw [mem_snapshot_iff wellFormed, lookupExact_eq]
  constructor
  · intro member
    have identity := (wellFormed.entries_shelf name slot member).1
    rw [identity]
    exact ⟨Shelf.get_of_mem (wellFormed.ascending_shelf name) member, rfl⟩
  · rintro ⟨found, identity⟩
    rw [identity] at found
    exact Shelf.mem_of_get found

/-- The instance is registered with the requested name, its version fits, and no registered version
that fits is newer. -/
structure IsNewestFitting (registry : Registry) (request : Request) (occurrence : Instance) :
    Prop where
  registered : occurrence ∈ registry.snapshot
  name : occurrence.identity.name = request.name
  fits : request.constraint.fits occurrence.identity.version = true
  newest : ∀ other ∈ registry.snapshot, other.identity.name = request.name →
    request.constraint.fits other.identity.version = true →
      other.identity.version ≤ occurrence.identity.version

theorem serves_inexact (registry : Registry) (request : Request) :
    registry.serves request false =
      ((registry.catalog.shelf request.name).reverse.find? fun slot =>
        request.constraint.fits slot.1).map Prod.snd :=
  lookupCompatible_eq registry request.name request.constraint

theorem serves_inexact_eq_some_iff (wellFormed : registry.WellFormed) :
    registry.serves request false = some occurrence ↔
      registry.IsNewestFitting request occurrence := by
  have ascending := wellFormed.ascending_shelf request.name
  rw [serves_inexact, Option.map_eq_some_iff]
  constructor
  · rintro ⟨slot, found, rfl⟩
    obtain ⟨member, fits, newest⟩ := (Shelf.find_reverse_eq_some_iff ascending).mp found
    obtain ⟨registered, identity⟩ := (mem_shelf_iff wellFormed).mp member
    refine ⟨registered, by rw [identity], by rwa [identity], fun other listed name otherFits => ?_⟩
    have placed : (other.identity.version, other) ∈ registry.catalog.shelf request.name :=
      (mem_shelf_iff wellFormed).mpr ⟨listed, by rw [← name]⟩
    rw [identity]
    exact newest _ placed otherFits
  · rintro ⟨registered, name, fits, newest⟩
    refine ⟨(occurrence.identity.version, occurrence), (Shelf.find_reverse_eq_some_iff
      ascending).mpr ⟨?_, fits, fun slot member slotFits => ?_⟩, rfl⟩
    · exact (mem_shelf_iff wellFormed).mpr ⟨registered, by rw [← name]⟩
    · obtain ⟨listed, identity⟩ := (mem_shelf_iff wellFormed).mp member
      have older := newest slot.2 listed (by rw [identity]) (by rwa [identity])
      rwa [identity] at older

theorem serves_inexact_eq_none_iff (wellFormed : registry.WellFormed) :
    registry.serves request false = none ↔
      ∀ occurrence ∈ registry.snapshot, occurrence.identity.name = request.name →
        request.constraint.fits occurrence.identity.version = false := by
  rw [serves_inexact, Option.map_eq_none_iff, List.find?_eq_none]
  constructor
  · intro unfit occurrence listed name
    have placed : (occurrence.identity.version, occurrence) ∈
        registry.catalog.shelf request.name :=
      (mem_shelf_iff wellFormed).mpr ⟨listed, by rw [← name]⟩
    exact Bool.eq_false_of_not_eq_true (unfit _ (List.mem_reverse.mpr placed))
  · intro unfit slot member
    obtain ⟨listed, identity⟩ := (mem_shelf_iff wellFormed).mp (List.mem_reverse.mp member)
    have refused := unfit slot.2 listed (by rw [identity])
    rw [identity] at refused
    exact ne_true_of_eq_false refused

/-- What serves an exact request would serve it otherwise, if there were nothing newer. -/
theorem exists_newer_of_exact (wellFormed : registry.WellFormed)
    (found : registry.serves request true = some occurrence) :
    request.constraint.fits occurrence.identity.version = true ∧
      ∃ newest, registry.serves request false = some newest ∧
        occurrence.identity.version ≤ newest.identity.version := by
  obtain ⟨⟨name, fits, _⟩, _, lookup⟩ := serves_sound wellFormed found
  have listed := (mem_snapshot_iff wellFormed).mpr lookup
  refine ⟨fits, ?_⟩
  cases offered : registry.serves request false with
  | none =>
    have unfit := (serves_inexact_eq_none_iff wellFormed).mp offered occurrence listed name
    exact absurd (fits.symm.trans unfit) (by decide)
  | some newest =>
    have best := (serves_inexact_eq_some_iff wellFormed).mp offered
    exact ⟨newest, rfl, best.newest occurrence listed name fits⟩

end Registry

/-! ### Resolutions that stay on their node -/

namespace Resolver

variable {resolver : Resolver} {query : Query} {busy : Bool} {now : Instant}
  {exchange : Envelope → Exchange}

/-- A query that stays on its node is answered by what serves it, whatever the cache and the
network have; a query that names no version is served by nothing. -/
theorem resolve_of_localOnly (confined : query.localOnly = true) :
    resolver.resolve query busy now exchange =
      ⟨resolver, [],
        orNotFound query none (resolver.registry.serves query.request query.exact)⟩ := by
  cases nameless : isUnaddressed query with
  | true =>
    obtain ⟨exact, star⟩ := (isUnaddressed_iff query).mp nameless
    have nothing : resolver.registry.serves query.request query.exact = none := by
      rw [exact, Registry.serves, if_pos rfl, star]
      rfl
    unfold resolve start
    rw [if_pos nameless, nothing]
    rfl
  | false =>
    rw [← localMatch_eq_serves nameless resolver]
    unfold resolve start
    rw [nameless, if_neg Bool.false_ne_true, if_pos confined]

/-- The answer of a node to the question of another one about a topic of its own. -/
theorem answer_question (registry : Registry) {node other : NodeId} (foreign : other ≠ node)
    (sender : AgentId) (request : Request) (exact : Bool) :
    Responder.answer registry node (Round.envelope other sender request exact) =
      (registry.serves request exact).map (Responder.replyFor node (topicFor request.name)) := by
  refine (if_neg foreign).trans ?_
  exact if_pos rfl

/-- The local lookups of a node agree. Otherwise than exactly, a request is served by the newest
registered version of its name that fits, and by nothing only if none fits. What serves it exactly
fits, and then it is also served otherwise, by the same version or a newer one. A resolution that
stays on the node finds what serves the request, or reports without a cause that nothing does; it
changes nothing and asks nobody. And this is what the node offers when another node asks: its answer
comes from the agent of what it found and from the node itself, is about the topic of the request,
and names the service and its version; where nothing was found, there is no answer. -/
theorem localLookups_agree {resolver : Resolver} (reachable : resolver.registry.Reachable)
    (request : Request) :
    (∀ occurrence, resolver.registry.serves request false = some occurrence ↔
      resolver.registry.IsNewestFitting request occurrence) ∧
    (resolver.registry.serves request false = none ↔
      ∀ occurrence ∈ resolver.registry.snapshot, occurrence.identity.name = request.name →
        request.constraint.fits occurrence.identity.version = false) ∧
    (∀ occurrence, resolver.registry.serves request true = some occurrence →
      request.constraint.fits occurrence.identity.version = true ∧
        ∃ newest, resolver.registry.serves request false = some newest ∧
          occurrence.identity.version ≤ newest.identity.version) ∧
    ∀ exact requester busy now exchange resolution,
      resolver.resolve ⟨request, exact, true, requester⟩ busy now exchange = resolution →
        resolution.resolver = resolver ∧ resolution.sent = [] ∧
        (∀ occurrence, resolution.result = .ok occurrence ↔
          resolver.registry.serves request exact = some occurrence) ∧
        (∀ error, resolution.result = .error error ↔
          resolver.registry.serves request exact = none ∧ error = .notFound request none) ∧
        ∀ other sender, other ≠ resolver.node →
          Responder.answer resolver.registry resolver.node
              (Round.envelope other sender request exact) =
            resolution.result.toOption.map fun occurrence =>
              ⟨occurrence.agent, resolver.node, topicFor request.name,
                .reply occurrence.identity⟩ := by
  have wellFormed := reachable.wellFormed
  refine ⟨fun _ => Registry.serves_inexact_eq_some_iff wellFormed,
    Registry.serves_inexact_eq_none_iff wellFormed,
    fun _ => Registry.exists_newer_of_exact wellFormed, ?_⟩
  intro exact requester busy now exchange resolution resolved
  rw [resolve_of_localOnly rfl] at resolved
  subst resolved
  refine ⟨rfl, rfl, fun _ => orNotFound_eq_ok_iff, fun _ => orNotFound_eq_error_iff, ?_⟩
  intro other sender foreign
  rw [answer_question _ foreign]
  cases resolver.registry.serves request exact <;> rfl

/-- A version of the greeting that runs on a node. -/
def release (minor : UInt32) : Instance :=
  Instance.here ⟨"greeting", ⟨1, minor, 0⟩⟩ ⟨minor.toNat, "greeter"⟩ Instant.zero

/-- A node on which some versions of the greeting run. -/
def releasing (minors : List UInt32) : Resolver :=
  ⟨Bytes32.filled 7, ⟨[("greeting", minors.map fun minor => (⟨1, minor, 0⟩, release minor))]⟩,
    Cache.empty ⟨5⟩⟩

/-- The versions come in any order, and the newest one goes. -/
theorem reachable_releasing : (releasing [2, 9, 10]).registry.Reachable := by
  have tenth : (releasing [10]).registry.Reachable :=
    .register .empty (show Registry.empty.register ⟨"greeting", ⟨1, 10, 0⟩⟩ ⟨10, "greeter"⟩
      Instant.zero = .ok (_, _) from rfl)
  have second : (releasing [2, 10]).registry.Reachable :=
    .register tenth (show (releasing [10]).registry.register ⟨"greeting", ⟨1, 2, 0⟩⟩
      ⟨2, "greeter"⟩ Instant.zero = .ok (_, _) from rfl)
  have eleventh : (releasing [2, 10, 11]).registry.Reachable :=
    .register second (show (releasing [2, 10]).registry.register ⟨"greeting", ⟨1, 11, 0⟩⟩
      ⟨11, "greeter"⟩ Instant.zero = .ok (_, _) from rfl)
  have ninth : (releasing [2, 9, 10, 11]).registry.Reachable :=
    .register eleventh (show (releasing [2, 10, 11]).registry.register ⟨"greeting", ⟨1, 9, 0⟩⟩
      ⟨9, "greeter"⟩ Instant.zero = .ok (_, _) from rfl)
  exact .unregister ninth (show (releasing [2, 9, 10, 11]).registry.unregister
    ⟨"greeting", ⟨1, 11, 0⟩⟩ ⟨11, "greeter"⟩ = .ok (_, _) from rfl)

/-- A network that cannot be asked. -/
def unreachable : Envelope → Exchange :=
  fun _ => ⟨.error (.send "no route"), Instant.zero⟩

/-- Exactly, `^1.9` is served by the version it names, and otherwise by the newer one, which is what
another node is offered. -/
theorem localLookups_agree_releasing :
    (releasing [2, 9, 10]).registry.Reachable ∧
    ((releasing [2, 9, 10]).resolve ⟨⟨"greeting", .caret ⟨1, 9, 0⟩⟩, true, true, "asker"⟩ true
      Instant.zero unreachable).result = .ok (release 9) ∧
    ((releasing [2, 9, 10]).resolve ⟨⟨"greeting", .caret ⟨1, 9, 0⟩⟩, false, true, "asker"⟩ true
      Instant.zero unreachable).result = .ok (release 10) ∧
    (⟨1, 9, 0⟩ : Version) ≤ ⟨1, 10, 0⟩ ∧
    Responder.answer (releasing [2, 9, 10]).registry (Bytes32.filled 7)
        (Round.envelope (Bytes32.filled 8) "visitor" ⟨"greeting", .caret ⟨1, 9, 0⟩⟩ false) =
      some ⟨"greeter", Bytes32.filled 7, topicFor "greeting",
        .reply ⟨"greeting", ⟨1, 10, 0⟩⟩⟩ := by
  obtain ⟨_, _, newer, resolves⟩ :=
    localLookups_agree reachable_releasing ⟨"greeting", .caret ⟨1, 9, 0⟩⟩
  have exactly := (resolves true "asker" true Instant.zero unreachable _ rfl).2.2.1 (release 9)
  obtain ⟨_, _, otherwise, _, offers⟩ :=
    resolves false "asker" true Instant.zero unreachable _ rfl
  have found := (otherwise (release 10)).mpr (by rfl)
  have offered := offers (Bytes32.filled 8) "visitor" (by decide)
  rw [found] at offered
  obtain ⟨_, newest, served, newer⟩ := newer (release 9) (by rfl)
  cases served
  exact ⟨reachable_releasing, exactly.mpr (by rfl), found, newer, offered⟩

end Resolver

end ServiceDiscovery
