/-
This file proves how long an instance stays in a cache. Over any history of a node that leaves
the network alone, an instance is cached at the end if and only if nothing ended it since the
add that created it last: no removal, no clearing, and no lookup of its version more than a
lifetime after it was last seen. It keeps the rank that it was created with, was last seen when
it was created or added again, and stands behind all that was created before it. So nothing is
lost while it is fresh, and nothing survives a lookup that finds it outdated.
-/

import Mathlib.Data.List.Induction
import ServiceDiscovery.Proofs.Contents

namespace ServiceDiscovery

/-! ### What an action does to the instances of one identity -/

namespace Action

/-- The action does not ask the network. -/
def isOffline : Action → Bool
  | .round _ _ | .resolve _ _ _ _ => false
  | _ => true

/-- The action adds an instance of the identity in the place. -/
def adds (identity : Identity) (place : Locality) : Action → Bool
  | .add occurrence => decide (occurrence.identity = identity ∧ occurrence.locality = place)
  | _ => false

/-- The action looks up a version of the service that the identity is one of. -/
def covers (identity : Identity) : Action → Bool
  | .lookupExact name version => decide (name = identity.name ∧ version = identity.version)
  | .lookupCompatible name constraint =>
    decide (name = identity.name ∧ constraint.fits identity.version = true)
  | _ => false

/-- The action ends what is cached of the identity in the place and was last seen at a moment:
it removes it, it clears the cache, or it is a lookup that covers it, more than the lifetime
later. -/
def ends (identity : Identity) (place : Locality) (lifetime : Duration) (seen now : Instant) :
    Action → Bool
  | .remove occurrence => decide (occurrence.identity = identity ∧ occurrence.locality = place)
  | .clear => true
  | action => action.covers identity &&
      decide (seen.nanoseconds + lifetime.nanoseconds < now.nanoseconds)

/-- The action does not end the instance. -/
def keeps (lifetime : Duration) (now : Instant) (action : Action) (occurrence : Instance) : Bool :=
  !action.ends occurrence.identity occurrence.locality lifetime occurrence.lastSeen now

/-- The instance, seen now if the action adds it again. -/
def refresh (now : Instant) (action : Action) (occurrence : Instance) : Instance :=
  if action.adds occurrence.identity occurrence.locality then occurrence.touch now else occurrence

/-- The instance that the action creates beside those that are cached of the identity. -/
def news (identity : Identity) (instances : List Instance) : Action → List Instance
  | .add occurrence =>
    if occurrence.isHere = false ∧ occurrence.identity = identity ∧
        ∀ existing ∈ instances, existing.locality ≠ occurrence.locality then [occurrence] else []
  | _ => []

variable {identity : Identity} {instances : List Instance} {lifetime : Duration} {now : Instant}
  {action : Action}

theorem locality_refresh (now : Instant) (action : Action) (occurrence : Instance) :
    (action.refresh now occurrence).locality = occurrence.locality := by
  unfold refresh
  split <;> rfl

theorem responseTime_refresh (now : Instant) (action : Action) (occurrence : Instance) :
    (action.refresh now occurrence).responseTime = occurrence.responseTime := by
  unfold refresh
  split <;> rfl

theorem lastSeen_refresh (now : Instant) (action : Action) (occurrence : Instance) :
    (action.refresh now occurrence).lastSeen =
      if action.adds occurrence.identity occurrence.locality then now else occurrence.lastSeen := by
  unfold refresh
  split <;> rfl

theorem mem_news {occurrence : Instance} :
    occurrence ∈ action.news identity instances ↔ action = .add occurrence ∧
      occurrence.isHere = false ∧ occurrence.identity = identity ∧
        ∀ existing ∈ instances, existing.locality ≠ occurrence.locality := by
  cases action with
  | add other =>
    show occurrence ∈ (if _ then _ else _) ↔ _
    split
    · rename_i isNew
      rw [List.mem_singleton, Action.add.injEq]
      constructor
      · rintro rfl
        exact ⟨rfl, isNew⟩
      · rintro ⟨rfl, _⟩
        rfl
    · rename_i known
      refine iff_of_false List.not_mem_nil ?_
      rintro ⟨same, isNew⟩
      cases same
      exact known isNew
  | _ => exact iff_of_false List.not_mem_nil fun impossible => nomatch impossible.1

theorem pairwise_news (related : Instance → Instance → Prop) :
    (action.news identity instances).Pairwise related := by
  cases action with
  | add occurrence =>
    show (if _ then _ else _ : List Instance).Pairwise related
    split
    · exact List.pairwise_singleton _ _
    · exact List.Pairwise.nil
  | _ => exact List.Pairwise.nil

/-- What stays of the instances of an identity, and what comes to them. -/
def change (lifetime : Duration) (now : Instant) (identity : Identity) (instances : List Instance)
    (action : Action) : List Instance :=
  (instances.filter (action.keeps lifetime now)).map (action.refresh now) ++
    action.news identity instances

/-- An action that adds nothing only drops instances. -/
theorem change_of_quiet (still : ∀ occurrence, action.refresh now occurrence = occurrence)
    (nothing : action.news identity instances = []) :
    action.change lifetime now identity instances =
      instances.filter (action.keeps lifetime now) := by
  rw [change, nothing, List.append_nil, List.map_id'' still]

/-- An action that ends nothing only refreshes and creates. -/
theorem change_of_kept (kept : ∀ occurrence, action.keeps lifetime now occurrence = true) :
    action.change lifetime now identity instances =
      instances.map (action.refresh now) ++ action.news identity instances := by
  rw [change, List.filter_eq_self.mpr fun occurrence _ => kept occurrence]

theorem change_of_idle (still : ∀ occurrence, action.refresh now occurrence = occurrence)
    (nothing : action.news identity instances = [])
    (kept : ∀ occurrence, action.keeps lifetime now occurrence = true) :
    action.change lifetime now identity instances = instances := by
  rw [change_of_kept kept, nothing, List.append_nil, List.map_id'' still]

theorem mem_change {occurrence : Instance} :
    occurrence ∈ action.change lifetime now identity instances ↔
      (∃ existing ∈ instances, action.keeps lifetime now existing = true ∧
        action.refresh now existing = occurrence) ∨
      occurrence ∈ action.news identity instances := by
  simp only [change, List.mem_append, List.mem_map, List.mem_filter, and_assoc]

/-! ### Adding -/

theorem map_refresh_of_apart {occurrence : Instance} (apart : ∀ existing ∈ instances,
      ¬ (occurrence.identity = existing.identity ∧ occurrence.locality = existing.locality))
    (now : Instant) : instances.map ((Action.add occurrence).refresh now) = instances :=
  (List.map_congr_left fun existing member =>
    if_neg fun added => apart existing member (of_decide_eq_true added)).trans (List.map_id _)

/-- Putting an instance among those of its identity is what adding it does to them. -/
theorem fst_insert (placed : Cache.Placed identity.name identity.version instances)
    {occurrence : Instance} (away : occurrence.isHere = false)
    (own : occurrence.identity = identity) (lifetime : Duration) (now : Instant) :
    (Cache.insert occurrence now instances).1 =
      (Action.add occurrence).change lifetime now identity instances := by
  rw [change_of_kept fun _ => rfl]
  rcases Cache.known_cases occurrence instances with
    isNew | ⟨before, existing, after, rfl, others, known⟩
  · have apart : ∀ existing ∈ instances, existing.locality ≠ occurrence.locality := by
      intro existing member same
      have different := isNew existing member
      rw [(Instance.same_iff_of_remote away).mpr same] at different
      cases different
    rw [Cache.insert_of_new isNew,
      map_refresh_of_apart fun existing member added => apart existing member added.2.symm]
    exact congrArg (instances ++ ·) (if_pos ⟨away, own, apart⟩).symm
  · have place := (Instance.same_iff_of_remote away).mp known
    have member : existing ∈ before ++ existing :: after :=
      List.mem_append_right _ List.mem_cons_self
    have apart : ∀ other ∈ before ++ after,
        ¬ (occurrence.identity = other.identity ∧ occurrence.locality = other.locality) :=
      fun other found added => placed.apart found (added.2.symm.trans place.symm)
    obtain ⟨ahead, behind⟩ := List.forall_mem_append.mp apart
    have nothing : (Action.add occurrence).news identity (before ++ existing :: after) = [] :=
      if_neg fun isNew => isNew.2.2 existing member place
    have touched : (Action.add occurrence).refresh now existing = existing.touch now :=
      if_pos (decide_eq_true ⟨own.trans (placed.identity existing member).symm, place.symm⟩)
    rw [Cache.insert_of_known others known, nothing, List.append_nil, List.map_append,
      List.map_cons, touched, map_refresh_of_apart ahead, map_refresh_of_apart behind]

/-- Adding changes nothing among instances of another identity, or if it is refused. -/
theorem change_add_of_other (placed : Cache.Placed identity.name identity.version instances)
    {occurrence : Instance}
    (other : ¬ (occurrence.isHere = false ∧ occurrence.identity = identity))
    (lifetime : Duration) (now : Instant) :
    (Action.add occurrence).change lifetime now identity instances = instances := by
  have nothing : (Action.add occurrence).news identity instances = [] :=
    if_neg fun isNew => other ⟨isNew.1, isNew.2.1⟩
  rw [change_of_kept fun _ => rfl, nothing, List.append_nil]
  refine map_refresh_of_apart (fun existing member added => other ⟨?_, ?_⟩) now
  · have remote := placed.remote existing member
    rwa [Instance.isHere, ← added.2] at remote
  · exact added.1.trans (placed.identity existing member)

/-! ### Removing and looking up -/

/-- Of the instances of one identity, a removal leaves those in other places. -/
theorem filter_keeps_remove (placed : Cache.Placed identity.name identity.version instances)
    (occurrence : Instance) (lifetime : Duration) (now : Instant) :
    instances.filter ((Action.remove occurrence).keeps lifetime now) =
      if occurrence.identity = identity then Cache.without occurrence instances
      else instances := by
  split
  · rename_i own
    refine List.filter_congr fun existing member => congrArg (! ·) ?_
    rw [existing.same_comm, Bool.eq_iff_iff,
      Instance.same_iff_of_remote (placed.remote existing member)]
    refine decide_eq_true_iff.trans (and_iff_right ?_)
    exact own.trans (placed.identity existing member).symm
  · rename_i other
    refine List.filter_eq_self.mpr fun existing member => congrArg (! ·) (decide_eq_false ?_)
    rintro ⟨own, _⟩
    exact other (own.trans (placed.identity existing member))

/-- Of the instances of one identity, a lookup that covers them leaves those that are fresh. -/
theorem filter_keeps_lookup (placed : Cache.Placed identity.name identity.version instances)
    (looking : ∀ place seen, action.ends identity place lifetime seen now =
      (action.covers identity &&
        decide (seen.nanoseconds + lifetime.nanoseconds < now.nanoseconds)))
    (reached : now.nanoseconds ≤ Instant.last.nanoseconds) :
    instances.filter (action.keeps lifetime now) =
      if action.covers identity then Cache.fresh lifetime now instances else instances := by
  have kept : ∀ occurrence ∈ instances, action.keeps lifetime now occurrence =
      !(action.covers identity && occurrence.isOutdated lifetime now) := by
    intro occurrence member
    rw [keeps, placed.identity occurrence member, looking]
    refine congrArg (fun outdated => !(_ && outdated)) (Bool.eq_iff_iff.mpr ?_)
    exact decide_eq_true_iff.trans (occurrence.isOutdated_iff lifetime reached).symm
  rw [List.filter_congr kept]
  cases action.covers identity with
  | true => rfl
  | false => exact List.filter_eq_self.mpr fun _ _ => rfl

end Action

/-! ### What one action does to the cache of a node -/

namespace Moment

/-- The cached instances of an identity. -/
def stored (moment : Moment) (identity : Identity) : List Instance :=
  moment.resolver.cache.stored identity.name identity.version

variable {moment : Moment} {identity : Identity}

theorem WellFormed.placed (wellFormed : moment.WellFormed) (identity : Identity) :
    Cache.Placed identity.name identity.version (moment.stored identity) :=
  Cache.WellFormed.placed wellFormed.resolver.cache _ _

/-- Without the network, an action does to the instances of each identity what it is said to. -/
theorem stored_step (wellFormed : moment.WellFormed) {action : Action}
    (offline : action.isOffline = true) (identity : Identity) :
    (moment.step action).stored identity =
      action.change moment.resolver.cache.lifetime moment.now identity
        (moment.stored identity) := by
  have placed := wellFormed.placed identity
  cases action with
  | register _ _ | unregister _ _ =>
    rw [Action.change_of_idle (fun _ => rfl) rfl fun _ => rfl]
    exact congrArg (Cache.stored · _ _) (moment.cache_withRegistry _)
  | wait span => exact (Action.change_of_idle (fun _ => rfl) rfl fun _ => rfl).symm
  | clear =>
    rw [Action.change_of_quiet (fun _ => rfl) rfl]
    exact (List.filter_eq_nil_iff.mpr fun _ _ => Bool.false_ne_true).symm
  | add occurrence =>
    by_cases new : occurrence.isHere = false ∧ occurrence.identity = identity
    · rw [← Action.fst_insert placed new.1 new.2]
      exact (Cache.stored_add new.1 _ _ _ _).trans (if_pos new.2)
    · rw [Action.change_add_of_other placed new]
      cases here : occurrence.isHere with
      | true => exact congrArg (Cache.stored · _ _) (Cache.add_of_here here _ _)
      | false => exact (Cache.stored_add here _ _ _ _).trans (if_neg fun own => new ⟨here, own⟩)
  | remove occurrence =>
    rw [Action.change_of_quiet (fun _ => rfl) rfl, Action.filter_keeps_remove placed]
    exact Cache.stored_remove _ _ _ _
  | lookupExact name version =>
    rw [Action.change_of_quiet (fun _ => rfl) rfl,
      Action.filter_keeps_lookup placed (fun _ _ => rfl) wellFormed.reached]
    exact (Cache.stored_bestExact _ _ _ _ _ _).trans (if_congr decide_eq_true_iff.symm rfl rfl)
  | lookupCompatible name constraint =>
    rw [Action.change_of_quiet (fun _ => rfl) rfl,
      Action.filter_keeps_lookup placed (fun _ _ => rfl) wellFormed.reached]
    exact (Cache.stored_bestCompatible wellFormed.resolver.cache _ _ _ _ _).trans
      (if_congr decide_eq_true_iff.symm rfl rfl)
  | round _ _ | resolve _ _ _ _ => cases offline

theorem lifetime_step {action : Action} (offline : action.isOffline = true) (moment : Moment) :
    (moment.step action).resolver.cache.lifetime = moment.resolver.cache.lifetime := by
  cases action with
  | register _ _ | unregister _ _ => exact congrArg Cache.lifetime (moment.cache_withRegistry _)
  | add occurrence => exact Cache.lifetime_add _ _ _
  | remove occurrence => exact Cache.lifetime_remove _ _
  | lookupExact name version => exact Cache.lifetime_bestExact _ _ _ _
  | lookupCompatible name constraint => exact Cache.lifetime_bestCompatible _ _ _ _
  | wait _ | clear => rfl
  | round _ _ | resolve _ _ _ _ => cases offline

/-! ### Histories -/

/-- When the instance in the place was last seen after a history in which nothing ended it. -/
def lastSeen (identity : Identity) (place : Locality) (seen : Instant) (moment : Moment) :
    List Action → Instant
  | [] => seen
  | action :: others =>
    lastSeen identity place (if action.adds identity place then moment.now else seen)
      (moment.step action) others

/-- Nothing in the history ended the instance in the place. -/
def Lasts (moment : Moment) (identity : Identity) (place : Locality) (seen : Instant)
    (history : List Action) : Prop :=
  ∀ earlier action later, history = earlier ++ action :: later →
    action.ends identity place moment.resolver.cache.lifetime
      (moment.lastSeen identity place seen earlier) (moment.after earlier).now = false

variable {place : Locality} {seen : Instant} {history : List Action} {action : Action}

theorem after_append (moment : Moment) (earlier later : List Action) :
    moment.after (earlier ++ later) = (moment.after earlier).after later :=
  List.foldl_append

/-- What the last action of a history does to the instances of an identity. -/
theorem stored_after_concat (reachable : moment.Reachable) (offline : action.isOffline = true)
    (history : List Action) (identity : Identity) :
    (moment.after (history ++ [action])).stored identity =
      action.change (moment.after history).resolver.cache.lifetime (moment.after history).now
        identity ((moment.after history).stored identity) := by
  rw [after_append]
  exact stored_step (reachable.after history).wellFormed offline identity

theorem lastSeen_append (moment : Moment) (earlier later : List Action) :
    moment.lastSeen identity place seen (earlier ++ later) =
      (moment.after earlier).lastSeen identity place
        (moment.lastSeen identity place seen earlier) later := by
  induction earlier generalizing moment seen with
  | nil => rfl
  | cons action others inductionHypothesis => exact inductionHypothesis (moment.step action)

theorem lastSeen_concat (moment : Moment) (history : List Action) (action : Action) :
    moment.lastSeen identity place seen (history ++ [action]) =
      if action.adds identity place then (moment.after history).now
      else moment.lastSeen identity place seen history :=
  lastSeen_append moment history [action]

theorem lifetime_after (offline : ∀ action ∈ history, action.isOffline = true)
    (moment : Moment) :
    (moment.after history).resolver.cache.lifetime = moment.resolver.cache.lifetime := by
  induction history generalizing moment with
  | nil => rfl
  | cons action others inductionHypothesis =>
    obtain ⟨first, rest⟩ := List.forall_mem_cons.mp offline
    exact (inductionHypothesis rest (moment.step action)).trans (lifetime_step first moment)

/-- A place in a history that goes on by one action is the end, or was there before. -/
theorem concat_eq_append_cons_iff {other : Action} {before after : List Action} :
    history ++ [action] = before ++ other :: after ↔
      (history = before ∧ action = other ∧ after = []) ∨
        ∃ others, after = others ++ [action] ∧ history = before ++ other :: others := by
  constructor
  · intro split
    rcases List.eq_nil_or_concat after with rfl | ⟨others, final, rfl⟩
    · obtain ⟨same, ends⟩ := List.append_inj' split rfl
      exact Or.inl ⟨same, List.singleton_inj.mp ends, rfl⟩
    · rw [List.concat_eq_append, ← List.cons_append, ← List.append_assoc] at split
      obtain ⟨same, ends⟩ := List.append_inj' split rfl
      exact Or.inr ⟨others, by rw [List.concat_eq_append, List.singleton_inj.mp ends], same⟩
  · rintro (⟨rfl, rfl, rfl⟩ | ⟨others, rfl, rfl⟩)
    · rfl
    · rw [List.append_assoc, List.cons_append]

theorem lasts_concat_iff :
    moment.Lasts identity place seen (history ++ [action]) ↔
      moment.Lasts identity place seen history ∧
        action.ends identity place moment.resolver.cache.lifetime
          (moment.lastSeen identity place seen history) (moment.after history).now = false := by
  constructor
  · refine fun lasts => ⟨fun earlier other later split => ?_, lasts history action [] rfl⟩
    exact lasts earlier other _ (concat_eq_append_cons_iff.mpr (Or.inr ⟨later, rfl, split⟩))
  · rintro ⟨lasts, kept⟩ earlier other later split
    rcases concat_eq_append_cons_iff.mp split with ⟨rfl, rfl, _⟩ | ⟨others, _, split⟩
    · exact kept
    · exact lasts earlier other others split

/-- An instance that nothing ends stays where it is, and was last seen when it was last added. -/
theorem exists_of_lasts (reachable : moment.Reachable)
    (offline : ∀ action ∈ history, action.isOffline = true) {occurrence : Instance}
    (member : occurrence ∈ moment.stored identity)
    (lasts : moment.Lasts identity occurrence.locality occurrence.lastSeen history) :
    ∃ later ∈ (moment.after history).stored identity,
      later.locality = occurrence.locality ∧
      later.lastSeen =
        moment.lastSeen identity occurrence.locality occurrence.lastSeen history := by
  -- By induction from the end of the history: the time last seen decides about the last action.
  induction history using List.reverseRecOn with
  | nil => exact ⟨occurrence, member, rfl, rfl⟩
  | append_singleton history action inductionHypothesis =>
    obtain ⟨earlier, final⟩ := List.forall_mem_append.mp offline
    obtain ⟨lasts, kept⟩ := lasts_concat_iff.mp lasts
    obtain ⟨later, stored, same, seen⟩ := inductionHypothesis earlier lasts
    have own : later.identity = identity :=
      ((reachable.after history).wellFormed.placed identity).identity later stored
    rw [stored_after_concat reachable (final action (List.mem_singleton_self _))]
    refine ⟨_, Action.mem_change.mpr (Or.inl ⟨later, stored, ?_, rfl⟩),
      (Action.locality_refresh _ _ _).trans same, ?_⟩
    · rw [Action.keeps, own, same, seen, lifetime_after earlier, kept]
      rfl
    · rw [Action.lastSeen_refresh, own, same, seen, lastSeen_concat]

/-! ### Creations -/

/-- This is the last add in the history that put an instance in the place, where there was
none. -/
structure LastCreated (start : Moment) (history : List Action) (identity : Identity)
    (place : Locality) (before : List Action) (creator : Instance) (after : List Action) :
    Prop where
  split : history = before ++ .add creator :: after
  service : creator.identity = identity
  locality : creator.locality = place
  unknown : ¬ (start.after before).resolver.cache.Knows identity place
  last : ∀ earlier action later, after = earlier ++ action :: later →
    action.adds identity place = true →
      (start.after (before ++ .add creator :: earlier)).resolver.cache.Knows identity place

/-- What is in the one place was created before what is in the other. -/
def Older (start : Moment) (history : List Action) (identity : Identity)
    (first second : Instance) : Prop :=
  ∀ before creator after otherBefore otherCreator otherAfter,
    start.LastCreated history identity first.locality before creator after →
    start.LastCreated history identity second.locality otherBefore otherCreator otherAfter →
      before.length < otherBefore.length

namespace LastCreated

variable {start : Moment} {before after : List Action} {creator : Instance}

/-- What came after the creation leads from it to the end. -/
theorem after_eq (created : start.LastCreated history identity place before creator after) :
    start.after history = ((start.after before).step (.add creator)).after after := by
  rw [created.split]
  exact after_append start before (.add creator :: after)

theorem offline_after (created : start.LastCreated history identity place before creator after)
    (offline : ∀ action ∈ history, action.isOffline = true) :
    ∀ action ∈ after, action.isOffline = true := fun action member =>
  offline action (created.split ▸ List.mem_append_right _ (List.mem_cons_of_mem _ member))

theorem lifetime_eq (created : start.LastCreated history identity place before creator after)
    (offline : ∀ action ∈ history, action.isOffline = true) :
    ((start.after before).step (.add creator)).resolver.cache.lifetime =
      (start.after history).resolver.cache.lifetime := by
  rw [created.after_eq, lifetime_after (created.offline_after offline)]

/-- The creation stays the last one if the history goes on without another. -/
theorem concat (created : start.LastCreated history identity place before creator after)
    (known : action.adds identity place = true →
      (start.after history).resolver.cache.Knows identity place) :
    start.LastCreated (history ++ [action]) identity place before creator (after ++ [action]) := by
  refine ⟨?_, created.service, created.locality, created.unknown,
    fun earlier other later split => ?_⟩
  · rw [created.split, List.append_assoc, List.cons_append]
  · rcases concat_eq_append_cons_iff.mp split with ⟨rfl, rfl, _⟩ | ⟨others, _, split⟩
    · rwa [← created.split]
    · exact created.last earlier other others split

/-- The last creation of what is known already was so before. -/
theorem of_concat
    (created : start.LastCreated (history ++ [action]) identity place before creator after)
    (known : (start.after history).resolver.cache.Knows identity place) :
    ∃ others, start.LastCreated history identity place before creator others := by
  rcases concat_eq_append_cons_iff.mp created.split with ⟨rfl, _, _⟩ | ⟨others, rfl, split⟩
  · exact absurd known created.unknown
  · refine ⟨others, split, created.service, created.locality, created.unknown, ?_⟩
    rintro earlier other later rfl added
    exact created.last earlier other (later ++ [action])
      (by rw [List.append_assoc, List.cons_append]) added

/-- An add of what was not known is a creation. -/
theorem of_unknown {occurrence : Instance}
    (unknown : ¬ (start.after history).resolver.cache.Knows occurrence.identity
      occurrence.locality) :
    start.LastCreated (history ++ [.add occurrence]) occurrence.identity occurrence.locality
      history occurrence [] :=
  ⟨rfl, rfl, rfl, unknown, fun earlier action later split => by
    cases earlier <;> cases split⟩

/-- An add of what was not known is the last creation. -/
theorem eq_of_unknown
    (created : start.LastCreated (history ++ [action]) identity place before creator after)
    (added : action.adds identity place = true)
    (unknown : ¬ (start.after history).resolver.cache.Knows identity place) :
    before = history := by
  rcases concat_eq_append_cons_iff.mp created.split with ⟨same, _, _⟩ | ⟨others, rfl, split⟩
  · exact same.symm
  · have known := created.last others action [] rfl added
    rw [← split] at known
    exact absurd known unknown

end LastCreated

/-! ### The life of what is cached -/

variable {start : Moment}

theorem stored_of_empty (empty : start.resolver.cache.catalog = []) (identity : Identity) :
    start.stored identity = [] := by
  rw [stored, Cache.stored, Catalog.shelf, empty]
  rfl

theorem not_knows_of_mem_news (history : List Action) {occurrence : Instance}
    (isNew : occurrence ∈ action.news identity ((start.after history).stored identity)) :
    ¬ (start.after history).resolver.cache.Knows identity occurrence.locality := by
  obtain ⟨_, _, _, apart⟩ := Action.mem_news.mp isNew
  rintro ⟨existing, member, same⟩
  exact apart existing member same

/-- Whatever is cached was created by an add that nothing ended since. -/
theorem exists_lastCreated (reachable : start.Reachable)
    (empty : start.resolver.cache.catalog = [])
    (offline : ∀ action ∈ history, action.isOffline = true) {occurrence : Instance}
    (member : occurrence ∈ (start.after history).stored identity) :
    ∃ before creator after,
      start.LastCreated history identity occurrence.locality before creator after ∧
      ((start.after before).step (.add creator)).Lasts identity occurrence.locality
        creator.lastSeen after ∧
      occurrence.responseTime = creator.responseTime ∧
      occurrence.lastSeen = ((start.after before).step (.add creator)).lastSeen identity
        occurrence.locality creator.lastSeen after := by
  induction history using List.reverseRecOn generalizing occurrence with
  | nil =>
    replace member : occurrence ∈ start.stored identity := member
    rw [stored_of_empty empty] at member
    cases member
  | append_singleton history action inductionHypothesis =>
    obtain ⟨earlier, final⟩ := List.forall_mem_append.mp offline
    rw [stored_after_concat reachable (final action (List.mem_singleton_self _))] at member
    rcases Action.mem_change.mp member with ⟨existing, known, kept, rfl⟩ | isNew
    · -- It was cached before, so an add of it now is no creation.
      obtain ⟨before, creator, after, created, lasts, rank, seen⟩ :=
        inductionHypothesis earlier known
      have own : existing.identity = identity :=
        ((reachable.after history).wellFormed.placed identity).identity existing known
      have lifetime := created.lifetime_eq earlier
      refine ⟨before, creator, after ++ [action], ?_, ?_, ?_, ?_⟩
      · rw [Action.locality_refresh]
        exact created.concat fun _ => ⟨existing, known, rfl⟩
      · rw [Action.locality_refresh]
        refine lasts_concat_iff.mpr ⟨lasts, ?_⟩
        rw [lifetime, ← created.after_eq, ← seen, ← own]
        exact Bool.not_eq_true' _ ▸ kept
      · rw [Action.responseTime_refresh, rank]
      · rw [Action.locality_refresh, Action.lastSeen_refresh, lastSeen_concat, own,
          ← created.after_eq, ← seen]
    · obtain ⟨rfl, _, rfl, _⟩ := Action.mem_news.mp isNew
      refine ⟨history, occurrence, [], .of_unknown (not_knows_of_mem_news history isNew), ?_, rfl,
        rfl⟩
      intro earlier action later split
      cases earlier <;> cases split

/-- What was created last in a place and did not end since is cached. -/
theorem knows_of_lasts (reachable : start.Reachable)
    (offline : ∀ action ∈ history, action.isOffline = true) {before after : List Action}
    {creator : Instance} (away : creator.isHere = false)
    (created : start.LastCreated history identity place before creator after)
    (lasts : ((start.after before).step (.add creator)).Lasts identity place creator.lastSeen
      after) : (start.after history).resolver.cache.Knows identity place := by
  obtain rfl := created.service
  obtain rfl := created.locality
  have wellFormed := (reachable.after before).wellFormed
  have stored : creator ∈ ((start.after before).step (.add creator)).stored creator.identity := by
    rw [stored_step wellFormed rfl]
    refine Action.mem_change.mpr (Or.inr (Action.mem_news.mpr ⟨rfl, away, rfl, ?_⟩))
    exact fun existing member same => created.unknown ⟨existing, member, same⟩
  obtain ⟨later, member, same, _⟩ := exists_of_lasts ((reachable.after before).step _)
    (created.offline_after offline) stored lasts
  rw [created.after_eq]
  exact ⟨later, member, same⟩

/-- Among the instances of an identity, one that was created earlier stands before. -/
theorem pairwise_older (reachable : start.Reachable)
    (empty : start.resolver.cache.catalog = [])
    (offline : ∀ action ∈ history, action.isOffline = true) :
    ((start.after history).stored identity).Pairwise (start.Older history identity) := by
  induction history using List.reverseRecOn with
  | nil =>
    show (start.stored identity).Pairwise _
    rw [stored_of_empty empty]
    exact List.Pairwise.nil
  | append_singleton history action inductionHypothesis =>
    obtain ⟨earlier, final⟩ := List.forall_mem_append.mp offline
    rw [stored_after_concat reachable (final action (List.mem_singleton_self _)), Action.change,
      List.pairwise_append, List.pairwise_map]
    refine ⟨?_, Action.pairwise_news _, ?_⟩
    · -- What was cached before keeps its creation, and its place.
      refine ((inductionHypothesis earlier).filter _).imp_of_mem ?_
      intro first second member alsoMember older before creator after otherBefore otherCreator
        otherAfter created alsoCreated
      rw [Action.locality_refresh] at created alsoCreated
      obtain ⟨_, created⟩ := created.of_concat ⟨first, (List.mem_filter.mp member).1, rfl⟩
      obtain ⟨_, alsoCreated⟩ :=
        alsoCreated.of_concat ⟨second, (List.mem_filter.mp alsoMember).1, rfl⟩
      exact older _ _ _ _ _ _ created alsoCreated
    · -- What is new was created by the last action, and all else before it.
      intro old member new isNew before creator after otherBefore otherCreator otherAfter created
        alsoCreated
      obtain ⟨existing, kept, rfl⟩ := List.mem_map.mp member
      rw [Action.locality_refresh] at created
      obtain ⟨_, formerly⟩ := created.of_concat ⟨existing, (List.mem_filter.mp kept).1, rfl⟩
      have unknown := not_knows_of_mem_news history isNew
      obtain ⟨rfl, _, own, _⟩ := Action.mem_news.mp isNew
      have last := alsoCreated.eq_of_unknown (decide_eq_true ⟨own, rfl⟩) unknown
      rw [last, formerly.split, List.length_append, List.length_cons]
      exact Nat.lt_add_of_pos_right (Nat.succ_pos _)

/-- Without the network, an instance on another node is cached at the end of a history if and
only if the history has a last add that created it, and nothing after that removed it, cleared
the cache, or looked up its version more than the lifetime after it was last seen. While it is
cached it has the rank that it was created with, it was last seen as it was created or when it
was last added again, and those of one name and version stand in the order of their creation. -/
theorem cache_lifetimes (reachable : start.Reachable)
    (empty : start.resolver.cache.catalog = [])
    (offline : ∀ action ∈ history, action.isOffline = true) (identity : Identity) :
    (∀ agent node,
      (start.after history).resolver.cache.Knows identity (.remote agent node) ↔
        ∃ before creator after,
          start.LastCreated history identity (.remote agent node) before creator after ∧
          ((start.after before).step (.add creator)).Lasts identity (.remote agent node)
            creator.lastSeen after) ∧
    (∀ occurrence ∈ (start.after history).stored identity, ∃ before creator after,
      start.LastCreated history identity occurrence.locality before creator after ∧
      occurrence.responseTime = creator.responseTime ∧
      occurrence.lastSeen = ((start.after before).step (.add creator)).lastSeen identity
        occurrence.locality creator.lastSeen after) ∧
    ((start.after history).stored identity).Pairwise (start.Older history identity) := by
  refine ⟨fun agent node => ⟨?_, ?_⟩, fun occurrence member => ?_,
    pairwise_older reachable empty offline⟩
  · rintro ⟨occurrence, member, place⟩
    obtain ⟨before, creator, after, created, lasts, _⟩ :=
      exists_lastCreated reachable empty offline member
    rw [place] at created lasts
    exact ⟨before, creator, after, created, lasts⟩
  · rintro ⟨before, creator, after, created, lasts⟩
    refine knows_of_lasts reachable offline ?_ created lasts
    rw [Instance.isHere, created.locality]
  · obtain ⟨before, creator, after, created, _, rank, seen⟩ :=
      exists_lastCreated reachable empty offline member
    exact ⟨before, creator, after, created, rank, seen⟩

/-- A first greeting is added and seen again, so that it outlasts a second one, which comes back
with another rank. -/
def outlasting : List Action :=
  [.add (greetingFrom "second" 2 1), .add (greetingFrom "first" 1 3), .wait ⟨4⟩,
    .add (greetingFrom "first" 1 7), .wait ⟨3⟩, .lookupCompatible "greeting" .any,
    .add (greetingFrom "second" 2 9)]

/-- The second greeting now stands behind the first, with the rank of the add that is last. -/
theorem cache_lifetimes_outlasting :
    (asker.after outlasting).stored ⟨"greeting", ⟨1, 0, 0⟩⟩ =
      [⟨⟨"greeting", ⟨1, 0, 0⟩⟩, .remote "first" (Bytes32.filled 1), ⟨4⟩, 3⟩,
        greetingFrom "second" 2 9] ∧
    (∃ before creator after,
      asker.LastCreated outlasting ⟨"greeting", ⟨1, 0, 0⟩⟩
        (.remote "second" (Bytes32.filled 2)) before creator after ∧
      ((asker.after before).step (.add creator)).Lasts ⟨"greeting", ⟨1, 0, 0⟩⟩
        (.remote "second" (Bytes32.filled 2)) creator.lastSeen after) ∧
    asker.Older outlasting ⟨"greeting", ⟨1, 0, 0⟩⟩
      ⟨⟨"greeting", ⟨1, 0, 0⟩⟩, .remote "first" (Bytes32.filled 1), ⟨4⟩, 3⟩
      (greetingFrom "second" 2 9) := by
  have reachable : asker.Reachable := .start _ _ (by decide)
  have offline : ∀ action ∈ outlasting, action.isOffline = true := by decide
  obtain ⟨lives, _, order⟩ := cache_lifetimes reachable rfl offline ⟨"greeting", ⟨1, 0, 0⟩⟩
  have stored : (asker.after outlasting).stored ⟨"greeting", ⟨1, 0, 0⟩⟩ =
      [⟨⟨"greeting", ⟨1, 0, 0⟩⟩, .remote "first" (Bytes32.filled 1), ⟨4⟩, 3⟩,
        greetingFrom "second" 2 9] := by
    decide
  rw [stored] at order
  have second : greetingFrom "second" 2 9 ∈
      (asker.after outlasting).stored ⟨"greeting", ⟨1, 0, 0⟩⟩ := by
    rw [stored]
    exact List.mem_cons_of_mem _ (List.mem_singleton_self _)
  exact ⟨stored, (lives _ _).mp ⟨_, second, rfl⟩,
    List.rel_of_pairwise_cons order (List.mem_singleton_self _)⟩

end Moment

end ServiceDiscovery
