/-
This file proves how far a node gets with the services of its configuration. Every service is
registered under a handle of its own, which is not the same as any that is registered by then. So
whatever is registered already is in the way, the services before it included, even if it is the
very same service; otherwise only a version that cannot be read stops the node. What it has done by
then is what registering the services before one by one does.
-/

import Mathlib.Data.List.Induction
import Mathlib.Data.List.Nodup
import ServiceDiscovery.Proofs.Registration

namespace ServiceDiscovery

/-! ### The keys of what is registered -/

namespace Registry

variable {registry registry' : Registry} {identity : Identity} {handle : Handle} {now : Instant}
  {notices : List Notice} {limit : Nat}

/-- The keys of all handles that are registered are below the limit. -/
def KeysBelow (registry : Registry) (limit : Nat) : Prop :=
  ∀ identity current, registry.handleOf identity = .ok current → current.key < limit

theorem KeysBelow.mono (below : registry.KeysBelow limit) {further : Nat}
    (atMost : limit ≤ further) : registry.KeysBelow further := fun identity current held =>
  Nat.lt_of_lt_of_le (below identity current held) atMost

theorem KeysBelow.register (below : registry.KeysBelow limit) (made : handle.key < limit)
    (done : registry.register identity handle now = .ok (registry', notices)) :
    registry'.KeysBelow limit := by
  rcases register_cases done with ⟨rfl, _⟩ | ⟨_, rfl, _⟩
  · exact below
  · intro other current held
    rw [handleOf_withInstance] at held
    split at held
    · cases held
      exact made
    · exact below other current held

theorem KeysBelow.unregister (below : registry.KeysBelow limit)
    (done : registry.unregister identity handle = .ok (registry', notices)) :
    registry'.KeysBelow limit := by
  rcases unregister_cases done with ⟨rfl, _⟩ | ⟨_, _, rfl, _⟩
  · exact below
  · intro other current held
    rw [handleOf_withoutIdentity] at held
    split at held
    · cases held
    · exact below other current held

/-- A handle with a key that is not in use is refused wherever anything is registered. -/
theorem KeysBelow.register_eq (below : registry.KeysBelow handle.key)
    (wellFormed : registry.WellFormed)
    (taken : registry.lookupExact identity.name identity.version ≠ none) (now : Instant) :
    registry.register identity handle now = .error (.conflict identity) := by
  rcases held_cases wellFormed identity handle with ⟨current, known, same⟩ | held | free
  · exact absurd same (Nat.ne_of_lt (below identity current known))
  · exact held.register_eq now
  · exact absurd free taken

/-- Hosting makes a key for every handle that it registers. -/
theorem KeysBelow.registerAll (id : NodeId) (now : Instant) (services : List HostedService)
    {nextKey : Nat} (below : registry.KeysBelow nextKey) :
    (Hosting.registerAll id now registry nextKey services).registry.KeysBelow
      (Hosting.registerAll id now registry nextKey services).nextKey := by
  induction services generalizing registry nextKey with
  | nil => exact below
  | cons service others inductionHypothesis =>
    -- A key is spent even on a handle that is refused.
    have next := below.mono (Nat.le_succ nextKey)
    unfold Hosting.registerAll
    split
    · exact below
    · split
      · exact next
      · rename_i done
        exact inductionHypothesis (next.register (Nat.lt_succ_self nextKey) done)

end Registry

namespace Node

variable {node next : Node} {identity : Identity} {identities : List Identity}
  {service : HostedService} {services before after : List HostedService}
  {error : Hosting.Error}

/-- What happens registers no handle that is still to be made. -/
def Event.IsMade (node : Node) : Event → Prop
  | .register _ handle => handle.key < node.nextKey
  | _ => True

/-- The states of nodes that register only handles which were made before. A handle that is new is
then the same as none that is registered. -/
inductive Supplied : Node → Prop where
  | start (id : NodeId) (lifetime : Duration) {now : Instant}
      (reached : now.nanoseconds ≤ Instant.last.nanoseconds) :
      Supplied { Node.empty id lifetime with now := now }
  | make {node : Node} (supplied : Supplied node) (agent : AgentId) :
      Supplied (node.newHandle agent).2
  | step {node : Node} (supplied : Supplied node) (event : Event) (made : event.IsMade node) :
      Supplied (node.step event)

theorem Supplied.wellFormed (supplied : node.Supplied) : node.registry.WellFormed := by
  have moment : node.moment.Reachable := by
    induction supplied with
    | start id lifetime reached => exact .start id lifetime reached
    | make _ agent inductionHypothesis => exact inductionHypothesis
    | step _ event _ inductionHypothesis => exact reachable_step inductionHypothesis event
  exact moment.wellFormed.resolver.registry

theorem keysBelow_changed {change : Except DiscoveryError (Registry × List Notice)}
    (below : node.registry.KeysBelow node.nextKey)
    (changed : ∀ registry notices, change = .ok (registry, notices) →
      registry.KeysBelow node.nextKey) :
    (node.changed (change.map fun result =>
      node.withRegistry result.1 result.2)).registry.KeysBelow
        (node.changed (change.map fun result => node.withRegistry result.1 result.2)).nextKey := by
  cases change with
  | error error => exact below
  | ok result => exact changed result.1 result.2 rfl

/-- Whatever happens at a node, the keys of what it registered stay below those still to be made. -/
theorem keysBelow_step (below : node.registry.KeysBelow node.nextKey) (event : Event)
    (made : event.IsMade node) :
    (node.step event).registry.KeysBelow (node.step event).nextKey := by
  cases event with
  | register identity handle =>
    exact keysBelow_changed below fun registry notices done => below.register made done
  | unregister identity handle =>
    exact keysBelow_changed below fun registry notices done => below.unregister done
  | host services => exact below.registerAll node.id node.now services
  | tell told =>
    show Registry.KeysBelow (Node.registry (if _ then _ else _)) (Node.nextKey (if _ then _ else _))
    split <;> exact below
  | resolve query busy outcome =>
    have frame : node.step (.resolve query busy outcome) = _ :=
      (node.resolve_frame query busy outcome).1
    rw [frame]
    exact below
  | call context outcome call =>
    have frame : node.step (.call context outcome call) = _ :=
      (Http.handle_course context node outcome call).frame
    rw [frame]
    exact below
  | startAnnouncing | stopAnnouncing | add | remove | lookupExact | lookupCompatible | clear
    | round | wait => exact below

theorem Supplied.keysBelow (supplied : node.Supplied) :
    node.registry.KeysBelow node.nextKey := by
  induction supplied with
  | start id lifetime reached => exact fun _ _ held => nomatch held
  | make _ agent inductionHypothesis => exact inductionHypothesis.mono (Nat.le_succ _)
  | step _ event made inductionHypothesis => exact keysBelow_step inductionHypothesis event made

/-! ### One by one -/

/-- The node with one more service, registered under a new handle of the agent that answers for
it. -/
def enlist (node : Node) (identity : Identity) : Node :=
  match node.newHandle (Hosting.agentFor node.id identity) with
  | (handle, node) => node.step (.register identity handle)

/-- The node with several more services, registered one after the other. -/
def enlistAll (node : Node) (identities : List Identity) : Node :=
  identities.foldl enlist node

theorem Supplied.enlist (supplied : node.Supplied) (identity : Identity) :
    (node.enlist identity).Supplied :=
  .step (supplied.make (Hosting.agentFor node.id identity))
    (.register identity ⟨node.nextKey, Hosting.agentFor node.id identity⟩)
    (Nat.lt_succ_self node.nextKey)

theorem Supplied.enlistAll (supplied : node.Supplied) (identities : List Identity) :
    (node.enlistAll identities).Supplied := by
  induction identities generalizing node with
  | nil => exact supplied
  | cons identity others inductionHypothesis =>
    exact inductionHypothesis (supplied.enlist identity)

theorem enlist_of_free
    (free : node.registry.lookupExact identity.name identity.version = none) :
    node.enlist identity =
      let added := Instance.here identity ⟨node.nextKey, Hosting.agentFor node.id identity⟩ node.now
      { node.withRegistry (node.registry.withInstance identity added) [.deployed added] with
        nextKey := node.nextKey + 1 } := by
  show changed _ (Except.map _ (node.registry.register identity _ node.now)) = _
  rw [Registry.register_of_free free]
  rfl

theorem lookupExact_enlist
    (free : node.registry.lookupExact identity.name identity.version = none) (other : Identity) :
    (node.enlist identity).registry.lookupExact other.name other.version =
      if identity = other then
        some (Instance.here identity ⟨node.nextKey, Hosting.agentFor node.id identity⟩ node.now)
      else node.registry.lookupExact other.name other.version := by
  rw [enlist_of_free free]
  exact Registry.lookupExact_withInstance _ _ _ _

/-- What is free stays free when something else is registered. -/
theorem forall_free_enlist
    (free : node.registry.lookupExact identity.name identity.version = none)
    (absent : identity ∉ identities)
    (others : ∀ other ∈ identities,
      node.registry.lookupExact other.name other.version = none) :
    ∀ other ∈ identities,
      (node.enlist identity).registry.lookupExact other.name other.version = none := by
  intro other member
  have different : identity ≠ other := fun same => absent (same ▸ member)
  rw [lookupExact_enlist free, if_neg different]
  exact others other member

theorem enlist_frame (node : Node) (identity : Identity) :
    (node.enlist identity).id = node.id ∧ (node.enlist identity).now = node.now := by
  show (changed _ (Except.map _ (node.registry.register identity _ node.now))).id = _ ∧
    (changed _ (Except.map _ (node.registry.register identity _ node.now))).now = _
  cases node.registry.register identity _ node.now <;> exact ⟨rfl, rfl⟩

/-- What registering several services one by one comes to. -/
structure Enlisted (node next : Node) (identities : List Identity) : Prop where
  log : next.log = node.log ++ identities.map fun identity =>
    ⟨node.now, .deployed, identity, Hosting.agentFor node.id identity⟩
  held : ∀ identity ∈ identities, ∃ key, node.nextKey ≤ key ∧
    next.registry.lookupExact identity.name identity.version =
      some (Instance.here identity ⟨key, Hosting.agentFor node.id identity⟩ node.now)
  kept : ∀ other, other ∉ identities →
    next.registry.lookupExact other.name other.version =
      node.registry.lookupExact other.name other.version

theorem enlisted_enlistAll (distinct : identities.Nodup)
    (free : ∀ identity ∈ identities,
      node.registry.lookupExact identity.name identity.version = none) :
    node.Enlisted (node.enlistAll identities) identities := by
  induction identities generalizing node with
  | nil =>
    exact ⟨(List.append_nil node.log).symm, fun _ member => (List.not_mem_nil member).elim,
      fun _ _ => rfl⟩
  | cons identity others inductionHypothesis =>
    obtain ⟨absent, distinct⟩ := List.nodup_cons.mp distinct
    obtain ⟨here, elsewhere⟩ := List.forall_mem_cons.mp free
    obtain ⟨id, now⟩ := node.enlist_frame identity
    obtain ⟨log, held, kept⟩ :=
      inductionHypothesis distinct (forall_free_enlist here absent elsewhere)
    rw [id, now] at log held
    have first := (lookupExact_enlist here identity).trans (if_pos rfl)
    refine ⟨?_, List.forall_mem_cons.mpr ⟨⟨node.nextKey, Nat.le_refl _, ?_⟩,
      fun other member => ?_⟩, fun other missing => ?_⟩
    · refine log.trans ?_
      rw [enlist_of_free here]
      exact List.append_assoc _ _ _
    · exact (kept identity absent).trans first
    · obtain ⟨key, later, stands⟩ := held other member
      rw [enlist_of_free here] at later
      exact ⟨key, Nat.le_of_succ_le later, stands⟩
    · obtain ⟨different, missing⟩ := not_or.mp (mt List.mem_cons.mpr missing)
      exact (kept other missing).trans
        ((lookupExact_enlist here other).trans (if_neg (Ne.symm different)))

/-! ### What is accepted and what is refused -/

/-- Services that can all be registered, with their identities: every version can be read, no two
identities are the same, and none is registered. -/
structure Accepts (node : Node) (services : List HostedService) (identities : List Identity) :
    Prop where
  readable : services.map (fun service => Identity.parse service.name service.version) =
    identities.map .ok
  distinct : identities.Nodup
  free : ∀ identity ∈ identities,
    node.registry.lookupExact identity.name identity.version = none

/-- A service that cannot be registered after others, with the error that says so: its version
cannot be read, or its identity is registered or one of the others. -/
inductive Refuses (node : Node) (others : List Identity) (service : HostedService) :
    Hosting.Error → Prop where
  | unreadable {problem : VersionError}
      (parsed : Identity.parse service.name service.version = .error problem) :
      Refuses node others service (.invalidVersion service.name problem)
  | taken {identity : Identity}
      (parsed : Identity.parse service.name service.version = .ok identity)
      (taken : node.registry.lookupExact identity.name identity.version ≠ none ∨
        identity ∈ others) :
      Refuses node others service (.refused identity (.conflict identity))

/-- Where registering services in order stops: at the end, or at the first that is refused. The
identities are those of the services before. -/
inductive Stops (node : Node) (services : List HostedService) (identities : List Identity) :
    Except Hosting.Error (List Identity) → Prop where
  | finished (accepts : node.Accepts services identities) : Stops node services identities
      (.ok identities)
  | refused {before after : List HostedService} {service : HostedService} {error : Hosting.Error}
      (split : services = before ++ service :: after) (accepts : node.Accepts before identities)
      (refuses : node.Refuses identities service error) : Stops node services identities
      (.error error)

theorem accepts_concat (accepts : node.Accepts before identities)
    (parsed : Identity.parse service.name service.version = .ok identity)
    (free : node.registry.lookupExact identity.name identity.version = none)
    (absent : identity ∉ identities) :
    node.Accepts (before ++ [service]) (identities ++ [identity]) where
  readable := by
    rw [List.map_append, List.map_append, accepts.readable, List.map_singleton, parsed]
    rfl
  distinct := List.nodup_append.mpr ⟨accepts.distinct, List.nodup_singleton identity,
    fun other early last member same => absent (by
      rwa [← List.mem_singleton.mp member, ← same])⟩
  free := fun other member => by
    rcases List.mem_append.mp member with early | last
    · exact accepts.free other early
    · rw [List.mem_singleton.mp last]
      exact free

/-- Registering stops somewhere. -/
theorem exists_stops (node : Node) (services : List HostedService) :
    ∃ identities result, node.Stops services identities result := by
  induction services using List.reverseRecOn with
  | nil => exact ⟨[], _, .finished ⟨rfl, List.nodup_nil, fun _ member => nomatch member⟩⟩
  | append_singleton before service inductionHypothesis =>
    -- Where it stops early it stops there still, so only what is finished goes on to the last.
    obtain ⟨identities, result, stops⟩ := inductionHypothesis
    cases stops with
    | refused split accepts refuses =>
      exact ⟨identities, _, .refused (by rw [split, List.append_assoc, List.cons_append]) accepts
        refuses⟩
    | finished accepts =>
      cases parsed : Identity.parse service.name service.version with
      | error problem => exact ⟨identities, _, .refused rfl accepts (.unreadable parsed)⟩
      | ok identity =>
        by_cases taken : node.registry.lookupExact identity.name identity.version ≠ none ∨
          identity ∈ identities
        · exact ⟨identities, _, .refused rfl accepts (.taken parsed taken)⟩
        · obtain ⟨free, absent⟩ := not_or.mp taken
          exact ⟨_, _, .finished (accepts_concat accepts parsed (not_not.mp free) absent)⟩

/-! ### Hosting -/

/-- The node with what the registration of several services leaves behind. -/
def leftBy (node : Node) (outcome : Hosting.Outcome) : Node :=
  { node.withRegistry outcome.registry outcome.notices with nextKey := outcome.nextKey }

theorem host_eq (node : Node) (services : List HostedService) :
    node.host services =
      (node.leftBy (Hosting.registerAll node.id node.now node.registry node.nextKey services),
        (Hosting.registerAll node.id node.now node.registry node.nextKey services).result) :=
  rfl

theorem leftBy_unchanged (node : Node) (nextKey : Nat)
    (result : Except Hosting.Error (List Identity)) :
    node.leftBy ⟨node.registry, [], nextKey, result⟩ = { node with nextKey := nextKey } := by
  rw [leftBy, withRegistry_self]

/-- What is left behind after one more service is left behind by the node that has it already. -/
theorem leftBy_after (node : Node) (identity : Identity) (registry : Registry)
    (notices : List Notice) (nextKey : Nat) (outcome : Hosting.Outcome) :
    node.leftBy (outcome.after identity notices) =
      leftBy { node.withRegistry registry notices with nextKey := nextKey } outcome := by
  simp only [leftBy, withRegistry, Hosting.Outcome.after, List.map_append, List.append_assoc]

theorem host_nil (node : Node) : node.host [] = (node, .ok []) := by
  rw [host_eq, Hosting.registerAll, leftBy_unchanged]

theorem host_of_unreadable {problem : VersionError}
    (parsed : Identity.parse service.name service.version = .error problem) :
    node.host (service :: services) = (node, .error (.invalidVersion service.name problem)) := by
  rw [host_eq]
  simp only [Hosting.registerAll, parsed, leftBy_unchanged]

theorem host_of_taken (supplied : node.Supplied)
    (parsed : Identity.parse service.name service.version = .ok identity)
    (taken : node.registry.lookupExact identity.name identity.version ≠ none) :
    node.host (service :: services) =
      ({ node with nextKey := node.nextKey + 1 },
        .error (.refused identity (.conflict identity))) := by
  let handle : Handle := ⟨node.nextKey, Hosting.agentFor node.id identity⟩
  have below : node.registry.KeysBelow handle.key := supplied.keysBelow
  have refused := below.register_eq supplied.wellFormed taken node.now
  rw [host_eq]
  simp only [Hosting.registerAll, parsed, refused, leftBy_unchanged, handle]

theorem host_of_free (parsed : Identity.parse service.name service.version = .ok identity)
    (free : node.registry.lookupExact identity.name identity.version = none) :
    node.host (service :: services) =
      (((node.enlist identity).host services).1,
        ((node.enlist identity).host services).2.map (identity :: ·)) := by
  rw [enlist_of_free free, host_eq, host_eq]
  simp only [Hosting.registerAll, parsed, Registry.register_of_free free]
  exact Prod.ext (leftBy_after _ _ _ _ _ _) rfl

theorem accepts_tail (accepts : node.Accepts (service :: services) (identity :: identities)) :
    Identity.parse service.name service.version = .ok identity ∧
      node.registry.lookupExact identity.name identity.version = none ∧
      (node.enlist identity).Accepts services identities := by
  obtain ⟨readable, distinct, free⟩ := accepts
  obtain ⟨parsed, readable⟩ := List.cons.inj readable
  obtain ⟨absent, distinct⟩ := List.nodup_cons.mp distinct
  obtain ⟨here, elsewhere⟩ := List.forall_mem_cons.mp free
  exact ⟨parsed, here, readable, distinct, forall_free_enlist here absent elsewhere⟩

/-- Services that are accepted are registered one by one before the node goes on to others. -/
theorem host_append (accepts : node.Accepts before identities) (after : List HostedService) :
    node.host (before ++ after) =
      (((node.enlistAll identities).host after).1,
        ((node.enlistAll identities).host after).2.map (identities ++ ·)) := by
  induction before generalizing node identities with
  | nil =>
    obtain rfl : identities = [] := List.map_eq_nil_iff.mp accepts.readable.symm
    refine Prod.ext rfl ?_
    show (node.host after).2 = (node.host after).2.map fun rest => rest
    cases (node.host after).2 <;> rfl
  | cons service others inductionHypothesis =>
    cases identities with
    | nil => cases accepts.readable
    | cons identity rest =>
      obtain ⟨parsed, free, accepts⟩ := accepts_tail accepts
      rw [List.cons_append, host_of_free parsed free, inductionHypothesis accepts]
      refine Prod.ext rfl ?_
      show Except.map _ (Except.map _ ((enlistAll (node.enlist identity) rest).host after).2) =
        Except.map _ ((enlistAll (node.enlist identity) rest).host after).2
      cases ((enlistAll (node.enlist identity) rest).host after).2 <;> rfl

/-- A service that is refused leaves a node as it is, except for a key. -/
theorem host_of_refuses (supplied : node.Supplied)
    (accepts : node.Accepts before identities) (refuses : node.Refuses identities service error) :
    ∃ key, (node.enlistAll identities).host (service :: after) =
      ({ node.enlistAll identities with nextKey := key }, .error error) := by
  obtain ⟨_, held, kept⟩ := enlisted_enlistAll accepts.distinct accepts.free
  cases refuses with
  | unreadable parsed => exact ⟨_, host_of_unreadable parsed⟩
  | taken parsed taken =>
    rename_i identity
    refine ⟨_, host_of_taken (supplied.enlistAll identities) parsed ?_⟩
    by_cases member : identity ∈ identities
    · obtain ⟨key, _, stands⟩ := held identity member
      rw [stands]
      exact Option.some_ne_none _
    · rw [kept identity member]
      exact taken.resolve_right member

variable {result : Except Hosting.Error (List Identity)}

/-- Where registering stops is what comes of it. -/
theorem Stops.host_eq (stops : node.Stops services identities result) (supplied : node.Supplied) :
    ∃ key, node.host services = ({ node.enlistAll identities with nextKey := key }, result) := by
  cases stops with
  | finished accepts =>
    have done := host_append accepts []
    rw [List.append_nil, host_nil] at done
    exact ⟨(node.enlistAll identities).nextKey,
      done.trans (Prod.ext rfl (congrArg Except.ok (List.append_nil identities)))⟩
  | refused split accepts refuses =>
    obtain ⟨key, refused⟩ := host_of_refuses supplied accepts refuses
    refine ⟨key, ?_⟩
    rw [split, host_append accepts, refused]
    rfl

theorem Stops.result_eq (stops : node.Stops services identities result)
    (supplied : node.Supplied) : (node.host services).2 = result := by
  obtain ⟨_, done⟩ := stops.host_eq supplied
  rw [done]

theorem Stops.exists_accepts (stops : node.Stops services identities result) :
    ∃ before, node.Accepts before identities := by
  cases stops with
  | finished accepts => exact ⟨_, accepts⟩
  | refused _ accepts _ => exact ⟨_, accepts⟩

theorem Stops.enlisted (stops : node.Stops services identities result)
    (supplied : node.Supplied) : node.Enlisted (node.host services).1 identities := by
  obtain ⟨_, done⟩ := stops.host_eq supplied
  obtain ⟨_, _, distinct, free⟩ := stops.exists_accepts
  obtain ⟨log, held, kept⟩ := enlisted_enlistAll distinct free
  rw [done]
  exact ⟨log, held, kept⟩

/-- Hosting registers services in order and stops at the first that is refused. It succeeds with the
identities of the services, in order, if and only if every version can be read, no two
identities are the same, however their versions are spelled, and none is registered. It fails if
and only if some service, behind others that are accepted, has a version that cannot be read or
an identity that is registered or that of one of the others; the error is that of this service.
In either case the node is as registering the services before the stop one by one leaves it, but
for the keys that it has still to make: of them, and of no others, it tells, each is registered
under a new handle of the agent that answers for it, and what is registered already stays. -/
theorem host_stops (supplied : node.Supplied) (services : List HostedService) :
    (∀ identities, (node.host services).2 = .ok identities ↔ node.Accepts services identities) ∧
    (∀ error, (node.host services).2 = .error error ↔
      ∃ before service after identities, services = before ++ service :: after ∧
        node.Accepts before identities ∧ node.Refuses identities service error) ∧
    (∀ identities, node.Stops services identities (node.host services).2 →
      (∃ key, (node.host services).1 = { node.enlistAll identities with nextKey := key }) ∧
      node.Enlisted (node.host services).1 identities) ∧
    ∀ (other : Identity) (occurrence : Instance),
      node.registry.lookupExact other.name other.version = some occurrence →
        (node.host services).1.registry.lookupExact other.name other.version =
          some occurrence := by
  obtain ⟨identities, result, stops⟩ := node.exists_stops services
  have outcome := stops.result_eq supplied
  refine ⟨fun others => ⟨fun succeeded => ?_, fun accepts => ?_⟩,
    fun error => ⟨fun failed => ?_, ?_⟩, fun others stops => ⟨?_, stops.enlisted supplied⟩,
    fun other occurrence known => ?_⟩
  · obtain rfl := outcome.symm.trans succeeded
    cases stops with
    | finished accepts => exact accepts
  · exact (Stops.finished accepts).result_eq supplied
  · obtain rfl := outcome.symm.trans failed
    cases stops with
    | refused split accepts refuses => exact ⟨_, _, _, _, split, accepts, refuses⟩
  · rintro ⟨_, _, _, _, split, accepts, refuses⟩
    exact (Stops.refused split accepts refuses).result_eq supplied
  · obtain ⟨key, done⟩ := stops.host_eq supplied
    exact ⟨key, congrArg Prod.fst done⟩
  · obtain ⟨_, accepts⟩ := stops.exists_accepts
    refine ((stops.enlisted supplied).kept other fun member => ?_).trans known
    rw [accepts.free other member] at known
    cases known

/-- A node with one version of a service under a handle of its own. -/
def equipped : Node :=
  ((Node.empty (Bytes32.filled 0) ⟨5⟩).newHandle "calculator").2.step
    (.register ⟨"calc", ⟨1, 0, 0⟩⟩ ⟨0, "calculator"⟩)

theorem supplied_equipped : equipped.Supplied :=
  .step (.make (.start (Bytes32.filled 0) ⟨5⟩ (Nat.zero_le _)) "calculator") _ (Nat.zero_lt_one)

/-- Another version of what is registered is hosted, the same one is refused, and so is a service
that was hosted just before in another spelling of its version. What stands behind a service that
is refused is not registered, what stands before it is. -/
theorem host_stops_respelled :
    equipped.Supplied ∧
    (equipped.host [⟨"calc", "1.1"⟩, ⟨"clock", " 2 "⟩]).2 =
      .ok [⟨"calc", ⟨1, 1, 0⟩⟩, ⟨"clock", ⟨2, 0, 0⟩⟩] ∧
    (equipped.host [⟨"clock", "2"⟩, ⟨"clock", "2.0"⟩]).2 =
      .error (.refused ⟨"clock", ⟨2, 0, 0⟩⟩ (.conflict ⟨"clock", ⟨2, 0, 0⟩⟩)) ∧
    (equipped.host [⟨"clock", "2"⟩, ⟨"calc", "1.0"⟩, ⟨"clock", "3"⟩]).2 =
      .error (.refused ⟨"calc", ⟨1, 0, 0⟩⟩ (.conflict ⟨"calc", ⟨1, 0, 0⟩⟩)) ∧
    (∃ key, (equipped.host [⟨"clock", "2"⟩, ⟨"calc", "1.0"⟩, ⟨"clock", "3"⟩]).1 =
      { equipped.enlistAll [⟨"clock", ⟨2, 0, 0⟩⟩] with nextKey := key }) ∧
    (equipped.host [⟨"clock", "two"⟩, ⟨"clock", "2"⟩]).1.registry.lookupExact "calc" ⟨1, 0, 0⟩ =
      some (Instance.here ⟨"calc", ⟨1, 0, 0⟩⟩ ⟨0, "calculator"⟩ Instant.zero) := by
  have both : equipped.Accepts [⟨"calc", "1.1"⟩, ⟨"clock", " 2 "⟩]
      [⟨"calc", ⟨1, 1, 0⟩⟩, ⟨"clock", ⟨2, 0, 0⟩⟩] :=
    ⟨by rfl, by decide, List.forall_mem_cons.mpr ⟨by rfl, List.forall_mem_singleton.mpr (by rfl)⟩⟩
  have clock : equipped.Accepts [⟨"clock", "2"⟩] [⟨"clock", ⟨2, 0, 0⟩⟩] :=
    ⟨by rfl, by decide, List.forall_mem_singleton.mpr (by rfl)⟩
  have again : equipped.Refuses [⟨"clock", ⟨2, 0, 0⟩⟩] ⟨"clock", "2.0"⟩
      (.refused ⟨"clock", ⟨2, 0, 0⟩⟩ (.conflict ⟨"clock", ⟨2, 0, 0⟩⟩)) :=
    .taken (by rfl) (Or.inr (List.mem_singleton_self _))
  have taken : equipped.Refuses [⟨"clock", ⟨2, 0, 0⟩⟩] ⟨"calc", "1.0"⟩
      (.refused ⟨"calc", ⟨1, 0, 0⟩⟩ (.conflict ⟨"calc", ⟨1, 0, 0⟩⟩)) :=
    .taken (by rfl) (Or.inl (Option.some_ne_none _))
  obtain ⟨_, failsAgain, _⟩ := host_stops supplied_equipped [⟨"clock", "2"⟩, ⟨"clock", "2.0"⟩]
  obtain ⟨_, fails, stops, _⟩ :=
    host_stops supplied_equipped [⟨"clock", "2"⟩, ⟨"calc", "1.0"⟩, ⟨"clock", "3"⟩]
  have failed := (fails _).mpr ⟨_, _, _, _, rfl, clock, taken⟩
  refine ⟨supplied_equipped, ((host_stops supplied_equipped _).1 _).mpr both,
    (failsAgain _).mpr ⟨_, _, _, _, rfl, clock, again⟩, failed, (stops _ ?_).1,
    (host_stops supplied_equipped _).2.2.2 ⟨"calc", ⟨1, 0, 0⟩⟩ _ (by rfl)⟩
  rw [failed]
  exact .refused rfl clock taken

end Node

end ServiceDiscovery
