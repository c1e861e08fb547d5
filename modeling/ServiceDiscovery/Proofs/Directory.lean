/-
This file proves what the log of a node is worth to a directory outside. A directory that hears
the log from the start knows exactly the services of the node, each with its agent. The relation
that carries this takes a directory from one state to another by what it hears, and lets a
service end only if the directory has it with that agent. Every change of the registry is told
in this way, and telling again what runs changes nothing, in whatever order it is told.
-/

import Mathlib.Logic.Function.Basic
import ServiceDiscovery.Proofs.NodeHistory

namespace ServiceDiscovery

/-! ### What a directory makes of announcements -/

/-- The agents of the services that a directory takes to be running. -/
abbrev Directory := Identity → Option AgentId

namespace Directory

def empty : Directory := fun _ => none

/-- The directory after an announcement. -/
def hear (directory : Directory) (announcement : Announcement) : Directory :=
  match announcement.kind with
  | .deployed => Function.update directory announcement.identity (some announcement.agent)
  | .ended => Function.update directory announcement.identity none

/-- The directory after a whole log. -/
def replay (log : List Announcement) : Directory :=
  log.foldl hear empty

/-- What is told takes one directory to another, and whatever ends is held until then, by the
agent that is named. -/
inductive Follows : Directory → List Announcement → Directory → Prop where
  | nil (directory : Directory) : Follows directory [] directory
  | cons {directory last : Directory} {announcement : Announcement} {others : List Announcement}
      (held : announcement.kind = .ended →
        directory announcement.identity = some announcement.agent)
      (rest : Follows (directory.hear announcement) others last) :
      Follows directory (announcement :: others) last

variable {directory next last : Directory} {told more : List Announcement}

theorem Follows.append (first : Follows directory told next) (second : Follows next more last) :
    Follows directory (told ++ more) last := by
  induction first with
  | nil => exact second
  | cons held _ inductionHypothesis => exact .cons held (inductionHypothesis second)

theorem Follows.foldl_eq (follows : Follows directory told last) :
    told.foldl hear directory = last := by
  induction follows with
  | nil => rfl
  | cons _ _ inductionHypothesis => exact inductionHypothesis

/-- Whatever ends is held when its end is heard. -/
theorem Follows.held_of_ended (follows : Follows directory told last)
    {before after : List Announcement} {announcement : Announcement}
    (split : told = before ++ announcement :: after) (ended : announcement.kind = .ended) :
    before.foldl hear directory announcement.identity = some announcement.agent := by
  induction before generalizing directory told with
  | nil =>
    subst split
    cases follows with
    | cons held _ => exact held ended
  | cons first others inductionHypothesis =>
    subst split
    cases follows with
    | cons _ rest => exact inductionHypothesis rest rfl

/-- Hearing of a service that is known already changes nothing. -/
theorem hear_of_known {announcement : Announcement} (deployed : announcement.kind = .deployed)
    (known : directory announcement.identity = some announcement.agent) :
    directory.hear announcement = directory := by
  unfold hear
  rw [deployed]
  exact Function.update_eq_self_iff.mpr known.symm

theorem follows_of_known (deployed : ∀ announcement ∈ told, announcement.kind = .deployed)
    (known : ∀ announcement ∈ told,
      directory announcement.identity = some announcement.agent) :
    Follows directory told directory := by
  induction told with
  | nil => exact .nil directory
  | cons announcement others inductionHypothesis =>
    obtain ⟨first, rest⟩ := List.forall_mem_cons.mp deployed
    obtain ⟨firstKnown, restKnown⟩ := List.forall_mem_cons.mp known
    refine .cons (fun ended => ?_) ?_
    · rw [first] at ended
      cases ended
    · rw [hear_of_known first firstKnown]
      exact inductionHypothesis rest restKnown

end Directory

/-! ### What a registry tells -/

namespace Registry

/-- The services of a registry with their agents. -/
def directory (registry : Registry) : Directory := fun identity =>
  (registry.lookupExact identity.name identity.version).map Instance.agent

variable {registry registry' : Registry} {identity : Identity} {handle : Handle} {now : Instant}
  {notices : List Notice}

theorem directory_eq_some_iff (wellFormed : registry.WellFormed) {agent : AgentId} :
    registry.directory identity = some agent ↔
      ∃ handle, registry.handleOf identity = .ok handle ∧ handle.agent = agent := by
  unfold directory handleOf
  cases found : registry.lookupExact identity.name identity.version with
  | none =>
    refine iff_of_false (fun impossible => nomatch impossible) ?_
    rintro ⟨_, impossible, _⟩
    cases impossible
  | some occurrence =>
    obtain ⟨_, place, _, _⟩ := occurrence
    cases place with
    | remote agent node => cases (lookupExact_sound wellFormed found).2
    | here own =>
      constructor
      · intro same
        exact ⟨own, rfl, Option.some.inj same⟩
      · rintro ⟨_, same, rfl⟩
        cases same
        rfl

/-- What is listed is what is found under its own identity. -/
theorem mem_snapshot_iff (wellFormed : registry.WellFormed) {occurrence : Instance} :
    occurrence ∈ registry.snapshot ↔
      registry.lookupExact occurrence.identity.name occurrence.identity.version =
        some occurrence := by
  rw [lookupExact_eq, wellFormed.get_eq_some_iff, snapshot, Catalog.mem_entries]
  constructor
  · rintro ⟨slot, known, place, placed, rfl⟩
    rw [(wellFormed.entries slot known place placed).1]
    exact ⟨slot, known, rfl, placed⟩
  · rintro ⟨slot, known, _, placed⟩
    exact ⟨slot, known, _, placed, rfl⟩

theorem directory_eq_some_iff_listed (wellFormed : registry.WellFormed) {agent : AgentId} :
    registry.directory identity = some agent ↔
      ∃ occurrence ∈ registry.snapshot, occurrence.identity = identity ∧
        occurrence.agent = agent := by
  unfold directory
  rw [Option.map_eq_some_iff]
  constructor
  · rintro ⟨occurrence, found, same⟩
    obtain rfl : occurrence.identity = identity := (lookupExact_sound wellFormed found).1
    exact ⟨occurrence, (mem_snapshot_iff wellFormed).mpr found, rfl, same⟩
  · rintro ⟨occurrence, listed, rfl, same⟩
    exact ⟨occurrence, (mem_snapshot_iff wellFormed).mp listed, same⟩

/-- What registering announces takes a directory along. -/
theorem follows_register
    (done : registry.register identity handle now = .ok (registry', notices)) :
    Directory.Follows registry.directory (notices.map (Announcement.ofNotice now))
      registry'.directory := by
  rcases register_cases done with ⟨rfl, rfl⟩ | ⟨_, rfl, rfl⟩
  · exact .nil _
  · have heard : registry.directory.hear ⟨now, .deployed, identity, handle.agent⟩ =
        (registry.withInstance identity (Instance.here identity handle now)).directory := by
      funext other
      show Function.update registry.directory identity (some handle.agent) other = _
      unfold directory
      rw [Function.update_apply, lookupExact_withInstance]
      by_cases same : other = identity
      · rw [if_pos same, if_pos same.symm]
        rfl
      · rw [if_neg same, if_neg (Ne.symm same)]
    exact .cons (fun impossible => nomatch impossible) (heard ▸ .nil _)

/-- What unregistering announces takes a directory along, and it ends what the directory has. -/
theorem follows_unregister (wellFormed : registry.WellFormed) (now : Instant)
    (done : registry.unregister identity handle = .ok (registry', notices)) :
    Directory.Follows registry.directory (notices.map (Announcement.ofNotice now))
      registry'.directory := by
  rcases unregister_cases done with ⟨rfl, rfl⟩ | ⟨existing, found, rfl, rfl⟩
  · exact .nil _
  · obtain rfl : existing.identity = identity := (lookupExact_sound wellFormed found).1
    have heard : registry.directory.hear ⟨now, .ended, existing.identity, existing.agent⟩ =
        (registry.withoutIdentity existing.identity).directory := by
      funext other
      show Function.update registry.directory existing.identity none other = _
      unfold directory
      rw [Function.update_apply, lookupExact_withoutIdentity]
      by_cases same : other = existing.identity
      · rw [if_pos same, if_pos same.symm]
        rfl
      · rw [if_neg same, if_neg (Ne.symm same)]
    refine .cons (fun _ => ?_) (heard ▸ .nil _)
    exact congrArg (Option.map Instance.agent) found

/-- Telling again what runs, in any order and by any number of tellings, takes a directory
nowhere. -/
theorem follows_again (wellFormed : registry.WellFormed) {told : List Announcement}
    (running : ∀ announcement ∈ told, ∃ moment, announcement ∈ Announcement.all moment registry) :
    Directory.Follows registry.directory told registry.directory := by
  refine Directory.follows_of_known (fun announcement member => ?_) fun announcement member => ?_
  · obtain ⟨moment, member⟩ := running announcement member
    obtain ⟨occurrence, _, rfl⟩ := List.mem_map.mp member
    rfl
  · obtain ⟨moment, member⟩ := running announcement member
    obtain ⟨occurrence, listed, rfl⟩ := List.mem_map.mp member
    exact (directory_eq_some_iff_listed wellFormed).mpr ⟨occurrence, listed, rfl, rfl⟩

/-- What hosting announces takes a directory along, however far it gets. -/
theorem follows_registerAll (id : NodeId) (now : Instant) (registry : Registry) (nextKey : Nat)
    (services : List HostedService) :
    Directory.Follows registry.directory
      ((Hosting.registerAll id now registry nextKey services).notices.map
        (Announcement.ofNotice now))
      (Hosting.registerAll id now registry nextKey services).registry.directory := by
  induction services generalizing registry nextKey with
  | nil => exact .nil _
  | cons service others inductionHypothesis =>
    unfold Hosting.registerAll
    split
    · exact .nil _
    · split
      · exact .nil _
      · rename_i registered notices done
        show Directory.Follows _ ((notices ++ _).map _) _
        rw [List.map_append]
        exact (follows_register done).append (inductionHypothesis registered (nextKey + 1))

/-! ### What is not told -/

theorem exists_of_handleOf {current : Handle} (held : registry.handleOf identity = .ok current) :
    ∃ existing, registry.lookupExact identity.name identity.version = some existing ∧
      ∀ handle, existing.hasHandle handle = current.same handle := by
  unfold handleOf at held
  split at held
  · rename_i own found
    cases held
    obtain ⟨existing, known, behind⟩ := Option.bind_eq_some_iff.mp found
    refine ⟨existing, known, fun handle => ?_⟩
    rw [Instance.hasHandle, behind]
  · cases held

theorem register_of_held {current : Handle} (held : registry.handleOf identity = .ok current)
    (same : current.same handle = true) (now : Instant) :
    registry.register identity handle now = .ok (registry, []) := by
  obtain ⟨existing, found, own⟩ := exists_of_handleOf held
  rw [register, found]
  exact if_pos ((own handle).trans same)

theorem unregister_of_absent
    (absent : registry.lookupExact identity.name identity.version = none) (handle : Handle) :
    registry.unregister identity handle = .ok (registry, []) := by
  rw [unregister, absent]

end Registry

namespace Hosting

theorem Outcome.failed_of_after {outcome : Outcome} {identity : Identity} {notices : List Notice}
    {error : Error} (failed : (outcome.after identity notices).result = .error error) :
    outcome.result = .error error := by
  obtain ⟨_, _, _, result⟩ := outcome
  cases result with
  | ok registered => cases failed
  | error other =>
    cases failed
    rfl

/-- Hosting that fails gets as far as the services before the one that it fails for. -/
theorem registerAll_of_error {id : NodeId} {now : Instant} {registry : Registry}
    {nextKey : Nat} {services : List HostedService} {error : Error}
    (failed : (registerAll id now registry nextKey services).result = .error error) :
    ∃ before service after registered, services = before ++ service :: after ∧
      (registerAll id now registry nextKey before).result = .ok registered ∧
      (registerAll id now registry nextKey before).notices =
        (registerAll id now registry nextKey services).notices ∧
      (registerAll id now registry nextKey before).registry =
        (registerAll id now registry nextKey services).registry := by
  induction services generalizing registry nextKey with
  | nil => cases failed
  | cons service others inductionHypothesis =>
    cases parsed : Identity.parse service.name service.version with
    | error problem =>
      refine ⟨[], service, others, [], rfl, rfl, ?_⟩
      simp only [registerAll, parsed, and_self]
    | ok identity =>
      cases done : registry.register identity ⟨nextKey, agentFor id identity⟩ now with
      | error problem =>
        refine ⟨[], service, others, [], rfl, rfl, ?_⟩
        simp only [registerAll, parsed, done, and_self]
      | ok change =>
        have goes (rest : List HostedService) :
            registerAll id now registry nextKey (service :: rest) =
              (registerAll id now change.1 (nextKey + 1) rest).after identity change.2 := by
          simp only [registerAll, parsed, done]
        rw [goes] at failed
        obtain ⟨before, refused, after, registered, rfl, succeeded, notices, kept⟩ :=
          inductionHypothesis (Outcome.failed_of_after failed)
        refine ⟨service :: before, refused, after, identity :: registered, rfl, ?_, ?_, ?_⟩
        · rw [goes]
          exact congrArg (Except.map (identity :: ·)) succeeded
        · rw [goes, goes]
          exact congrArg (change.2 ++ ·) notices
        · rw [goes, goes]
          exact kept

end Hosting

/-! ### What a node tells -/

namespace Node

variable {node next : Node}

/-- The node went on to tell what takes a directory from its services to the next ones. -/
def Tells (node next : Node) : Prop :=
  ∃ told, next.log = node.log ++ told ∧
    Directory.Follows node.registry.directory told next.registry.directory

/-- A node that keeps its services and tells nothing. -/
theorem tells_of_silent (log : next.log = node.log) (registry : next.registry = node.registry) :
    node.Tells next := by
  refine ⟨[], ?_, ?_⟩
  · rw [log, List.append_nil]
  · rw [registry]
    exact .nil _

/-- A change of the registry is told as it is announced, and one that is refused is not told. -/
theorem tells_changed {change : Except DiscoveryError (Registry × List Notice)}
    (follows : ∀ registry notices, change = .ok (registry, notices) →
      Directory.Follows node.registry.directory (notices.map (Announcement.ofNotice node.now))
        registry.directory) :
    node.Tells (node.changed (change.map fun result => node.withRegistry result.1 result.2)) := by
  cases change with
  | error error => exact tells_of_silent rfl rfl
  | ok result => exact ⟨_, rfl, follows result.1 result.2 rfl⟩

/-- Whatever happens at a node, what it tells of it takes a directory along. -/
theorem tells_step (wellFormed : node.registry.WellFormed) (event : Event) :
    node.Tells (node.step event) := by
  cases event with
  | register identity handle =>
    exact tells_changed fun registry notices done => Registry.follows_register done
  | unregister identity handle =>
    exact tells_changed fun registry notices done =>
      Registry.follows_unregister wellFormed node.now done
  | host services =>
    exact ⟨_, rfl,
      Registry.follows_registerAll node.id node.now node.registry node.nextKey services⟩
  | tell told =>
    show node.Tells (if _ then _ else _)
    split
    · rename_i running
      exact ⟨told, rfl, Registry.follows_again wellFormed fun announcement member =>
        ⟨node.now, running.mem_iff.mp member⟩⟩
    · exact tells_of_silent rfl rfl
  | wait span =>
    refine ⟨_, rfl, Registry.follows_again wellFormed fun announcement member => ?_⟩
    obtain ⟨moment, _, member⟩ := List.mem_flatMap.mp member
    exact ⟨moment, member⟩
  | resolve query busy outcome =>
    have frame : node.step (.resolve query busy outcome) = _ :=
      (node.resolve_frame query busy outcome).1
    rw [frame]
    exact tells_of_silent rfl rfl
  | call context outcome call =>
    have frame : node.step (.call context outcome call) = _ :=
      (Http.handle_course context node outcome call).frame
    rw [frame]
    exact tells_of_silent rfl rfl
  | startAnnouncing | stopAnnouncing | add | remove | lookupExact | lookupCompatible | clear
    | round => exact tells_of_silent rfl rfl

/-- A directory that hears the whole log of a node knows the services of the node. -/
theorem Reachable.follows (reachable : node.Reachable) :
    Directory.Follows Directory.empty node.log node.registry.directory := by
  induction reachable with
  | start id lifetime reached => exact .nil _
  | step reachable event inductionHypothesis =>
    obtain ⟨told, log, follows⟩ := tells_step reachable.wellFormed.registry event
    rw [log]
    exact inductionHypothesis.append follows

theorem withRegistry_self (node : Node) : node.withRegistry node.registry [] = node := by
  unfold withRegistry
  rw [List.map_nil, List.append_nil]
  rfl

/-- The log of a node replays to its registry. A directory that hears it knows exactly the
services that are registered, each under the agent of its handle; and whenever it hears that a
service ended, it has it under the agent that is named. A change that is refused leaves the node
as it is, and so does registering a handle once more, or unregistering where nothing is. Hosting
that fails tells of the services before the one that it fails for, and of no others. -/
theorem log_replays (reachable : node.Reachable) :
    (∀ identity agent,
      (Directory.replay node.log identity = some agent ↔
        ∃ handle, node.registry.handleOf identity = .ok handle ∧ handle.agent = agent) ∧
      (Directory.replay node.log identity = some agent ↔
        ∃ occurrence ∈ node.registry.snapshot,
          occurrence.identity = identity ∧ occurrence.agent = agent)) ∧
    (∀ before announcement after, node.log = before ++ announcement :: after →
      announcement.kind = .ended →
        Directory.replay before announcement.identity = some announcement.agent) ∧
    (∀ identity handle error,
      (node.register identity handle = .error error →
        node.step (.register identity handle) = node) ∧
      (node.unregister identity handle = .error error →
        node.step (.unregister identity handle) = node)) ∧
    (∀ identity handle current, node.registry.handleOf identity = .ok current →
      current.same handle = true → node.register identity handle = .ok node) ∧
    (∀ identity handle, node.registry.lookupExact identity.name identity.version = none →
      node.unregister identity handle = .ok node) ∧
    ∀ services error, (node.host services).2 = .error error →
      ∃ before service after registered, services = before ++ service :: after ∧
        (node.host before).2 = .ok registered ∧
        (node.host services).1.log = (node.host before).1.log := by
  have wellFormed := reachable.wellFormed.registry
  have replayed : Directory.replay node.log = node.registry.directory := reachable.follows.foldl_eq
  refine ⟨fun identity agent => ?_, fun before announcement after split ended => ?_,
    fun identity handle error => ⟨fun refused => ?_, fun refused => ?_⟩,
    fun identity handle current held same => ?_, fun identity handle absent => ?_,
    fun services error failed => ?_⟩
  · rw [replayed]
    exact ⟨Registry.directory_eq_some_iff wellFormed,
      Registry.directory_eq_some_iff_listed wellFormed⟩
  · exact reachable.follows.held_of_ended split ended
  · show node.changed (node.register identity handle) = node
    rw [refused]
    rfl
  · show node.changed (node.unregister identity handle) = node
    rw [refused]
    rfl
  · rw [register, Registry.register_of_held held same]
    exact congrArg Except.ok node.withRegistry_self
  · rw [unregister, Registry.unregister_of_absent absent]
    exact congrArg Except.ok node.withRegistry_self
  · obtain ⟨before, service, after, registered, split, succeeded, notices, _⟩ :=
      Hosting.registerAll_of_error failed
    refine ⟨before, service, after, registered, split, succeeded, ?_⟩
    exact congrArg (fun told => node.log ++ told.map (Announcement.ofNotice node.now)) notices.symm

def recurring : Identity :=
  ⟨"recurring", ⟨1, 0, 0⟩⟩

/-- A service comes, is told again, refuses another handle, goes, and comes back under that
handle; of two hosted services of one identity the second is refused. -/
def renewed : Node :=
  (Node.empty (Bytes32.filled 0) ⟨5⟩).after
    [.register recurring ⟨7, "first"⟩, .startAnnouncing ⟨2⟩, .wait ⟨3⟩,
      .register recurring ⟨8, "second"⟩, .unregister recurring ⟨7, "first"⟩,
      .unregister recurring ⟨7, "first"⟩, .register recurring ⟨8, "second"⟩,
      .host [⟨"farewell", "1.0"⟩, ⟨"farewell", "1.0.0"⟩]]

theorem reachable_renewed : renewed.Reachable :=
  (Reachable.start (Bytes32.filled 0) ⟨5⟩ (Nat.zero_le _)).after _

theorem log_replays_renewed :
    renewed.Reachable ∧
    renewed.log.map (fun told => (told.moment, told.kind, told.identity)) =
      [(⟨0⟩, .deployed, recurring), (⟨2⟩, .deployed, recurring), (⟨3⟩, .ended, recurring),
        (⟨3⟩, .deployed, recurring), (⟨3⟩, .deployed, ⟨"farewell", ⟨1, 0, 0⟩⟩)] ∧
    Directory.replay renewed.log recurring = some "second" ∧
    Directory.replay (renewed.log.take 2) recurring = some "first" ∧
    renewed.register recurring ⟨8, "second"⟩ = .ok renewed ∧
    renewed.unregister ⟨"recurring", ⟨2, 0, 0⟩⟩ ⟨8, "second"⟩ = .ok renewed := by
  obtain ⟨replays, ends, _, again, absent, _⟩ := log_replays reachable_renewed
  refine ⟨reachable_renewed, by rfl,
    (replays recurring "second").1.mpr ⟨⟨8, "second"⟩, by rfl, rfl⟩,
    ends _ ⟨⟨3⟩, .ended, recurring, "first"⟩ (renewed.log.drop 3) (by rfl) rfl,
    again recurring _ ⟨8, "second"⟩ (by rfl) (by rfl), absent _ _ (by rfl)⟩

end Node

end ServiceDiscovery
