/-
This file proves when a node tells again what it runs, and what it tells. The periodic telling
remembers nothing but the next moment that it waits for. Still, at every reading of the clock it
has told everything once for each period that is over, the first time at the end of the first
one. In how many waits the clock got there makes no difference, and each telling is of the
services that were there when its moment came.
-/

import Mathlib.Data.List.Induction
import ServiceDiscovery.Proofs.Reports

namespace ServiceDiscovery

namespace Instant

theorem nanoseconds_after (moment : Instant) (span : Duration) :
    (moment.after span).nanoseconds =
      min (moment.nanoseconds + span.nanoseconds) last.nanoseconds := by
  unfold after add? reached?
  split
  · rename_i reached
    exact (Nat.min_eq_left reached).symm
  · rename_i beyond
    exact (Nat.min_eq_right (Nat.le_of_not_le beyond)).symm

/-- Two waits are one. -/
theorem after_after (moment : Instant) (first second : Duration) :
    (moment.after first).after second =
      moment.after ⟨first.nanoseconds + second.nanoseconds⟩ := by
  have same : ((moment.after first).after second).nanoseconds =
      (moment.after ⟨first.nanoseconds + second.nanoseconds⟩).nanoseconds := by
    rw [nanoseconds_after, nanoseconds_after, nanoseconds_after]
    show _ = min (moment.nanoseconds + (first.nanoseconds + second.nanoseconds)) last.nanoseconds
    omega
  exact congrArg Instant.mk same

end Instant

/-! ### The moments -/

namespace Announcing

variable {begun now target : Instant} {period : Duration}

/-- The number of periods that are over. -/
def elapsed (begun now : Instant) (period : Duration) : Nat :=
  (now.nanoseconds - begun.nanoseconds) / period.nanoseconds

/-- The telling that began at a moment, as it is later: it waits for the end of the period that
is not over yet, if the clock reaches it. -/
def underway (begun now : Instant) (period : Duration) : Announcing :=
  .running (moment begun period (elapsed begun now period + 1)).reached? period

/-- The ends of the periods that end after one moment and up to another. -/
def due (begun : Instant) (period : Duration) (now target : Instant) : List Instant :=
  (List.range' (elapsed begun now period + 1)
    (elapsed begun target period - elapsed begun now period)).map (moment begun period)

theorem elapsed_self (begun : Instant) (period : Duration) : elapsed begun begun period = 0 := by
  unfold elapsed
  rw [Nat.sub_self, Nat.zero_div]

theorem elapsed_mono (begun : Instant) (period : Duration)
    (ordered : now.nanoseconds ≤ target.nanoseconds) :
    elapsed begun now period ≤ elapsed begun target period :=
  Nat.div_le_div_right (Nat.sub_le_sub_right ordered _)

/-- A period is over when the clock shows its end. -/
theorem le_elapsed_iff (positive : 0 < period.nanoseconds)
    (ordered : begun.nanoseconds ≤ now.nanoseconds) {index : Nat} :
    index ≤ elapsed begun now period ↔
      (moment begun period index).nanoseconds ≤ now.nanoseconds := by
  show index ≤ _ / _ ↔ begun.nanoseconds + index * period.nanoseconds ≤ now.nanoseconds
  rw [Nat.le_div_iff_mul_le positive]
  omega

theorem moment_moment (begun : Instant) (period : Duration) (first second : Nat) :
    moment (moment begun period first) period second = moment begun period (first + second) := by
  unfold moment
  rw [Nat.add_mul, Nat.add_assoc]

theorem start_eq (positive : 0 < period.nanoseconds) :
    start begun period = underway begun begun period := by
  unfold start underway
  rw [if_neg (Nat.pos_iff_ne_zero.mp positive), elapsed_self]
  unfold moment
  rw [Nat.zero_add, Nat.one_mul]
  rfl

theorem ticks_eq (positive : 0 < period.nanoseconds)
    (ordered : begun.nanoseconds ≤ target.nanoseconds) (told : Nat) :
    ticks (moment begun period (told + 1)) target period =
      elapsed begun target period - told := by
  have due : told + 1 ≤ elapsed begun target period ↔ _ := le_elapsed_iff positive ordered
  unfold ticks
  split
  · rename_i reached
    have atLeast := due.mpr reached
    have whole : (target.nanoseconds - (moment begun period (told + 1)).nanoseconds) /
        period.nanoseconds = elapsed begun target period - (told + 1) := by
      unfold moment elapsed
      rw [Nat.sub_add_eq, Nat.mul_comm, Nat.sub_mul_div]
    omega
  · rename_i unreached
    have less := fun atLeast => unreached (due.mp atLeast)
    omega

/-- The telling goes on as it began, and everything is told at the end of each period. -/
theorem advance_underway (positive : 0 < period.nanoseconds)
    (begunBefore : begun.nanoseconds ≤ now.nanoseconds)
    (ordered : now.nanoseconds ≤ target.nanoseconds)
    (reached : target.nanoseconds ≤ Instant.last.nanoseconds) :
    (underway begun now period).advance target =
      (due begun period now target, underway begun target period) := by
  have begunEarlier := Nat.le_trans begunBefore ordered
  have more := elapsed_mono begun period ordered
  rw [underway, Instant.reached?, due]
  split
  · show ((List.range (ticks (moment begun period (elapsed begun now period + 1)) target
      period)).map _, Announcing.running (Instant.reached? _) period) = _
    have next : elapsed begun now period + 1 +
        (elapsed begun target period - elapsed begun now period) =
          elapsed begun target period + 1 := by
      omega
    rw [ticks_eq positive begunEarlier, moment_moment, List.range'_eq_map_range, List.map_map,
      next]
    exact Prod.ext (List.map_congr_left fun index _ => moment_moment _ _ _ _) rfl
  · -- The next end of a period lies beyond the clock, so no period ends up to the target.
    rename_i beyond
    have none : elapsed begun target period = elapsed begun now period := by
      refine Nat.le_antisymm (Nat.le_of_lt_succ (Nat.lt_of_not_le fun ended => beyond ?_)) more
      exact Nat.le_trans ((le_elapsed_iff positive begunEarlier).mp ended) reached
    rw [none, Nat.sub_self, underway, none, Instant.reached?, if_neg beyond]
    rfl

theorem length_due (begun : Instant) (period : Duration)
    (ordered : now.nanoseconds ≤ target.nanoseconds) :
    elapsed begun now period + (due begun period now target).length =
      elapsed begun target period := by
  rw [due, List.length_map, List.length_range']
  exact Nat.add_sub_cancel' (elapsed_mono begun period ordered)

theorem getElem?_due {index : Nat} (past : elapsed begun now period ≤ index)
    (ended : index < elapsed begun target period) :
    (due begun period now target)[index - elapsed begun now period]? =
      some (moment begun period (index + 1)) := by
  have position : elapsed begun now period + 1 + 1 * (index - elapsed begun now period) =
      index + 1 := by
    omega
  rw [due, List.getElem?_map, List.getElem?_range' (Nat.sub_lt_sub_right past ended), position]
  rfl

theorem due_append (begun : Instant) (period : Duration) {middle : Instant}
    (ordered : now.nanoseconds ≤ middle.nanoseconds)
    (alsoOrdered : middle.nanoseconds ≤ target.nanoseconds) :
    due begun period now middle ++ due begun period middle target =
      due begun period now target := by
  have more := elapsed_mono begun period ordered
  have evenMore := elapsed_mono begun period alsoOrdered
  have place : elapsed begun middle period + 1 = elapsed begun now period + 1 +
      (elapsed begun middle period - elapsed begun now period) := by
    omega
  have count : elapsed begun middle period - elapsed begun now period +
      (elapsed begun target period - elapsed begun middle period) =
        elapsed begun target period - elapsed begun now period := by
    omega
  unfold due
  rw [← List.map_append, place, List.range'_append_1, count]

end Announcing

/-! ### What is told at a moment -/

namespace Registry

variable {registry : Registry}

/-- Every service of a registry is told once, with its agent, and nothing else is. -/
structure ToldBy (registry : Registry) (moment : Instant) (told : List Announcement) : Prop where
  once : (told.map Announcement.identity).Nodup
  exact : ∀ announcement, announcement ∈ told ↔
    announcement.moment = moment ∧ announcement.kind = .deployed ∧
      registry.directory announcement.identity = some announcement.agent

theorem toldBy_all (wellFormed : registry.WellFormed) (moment : Instant) :
    registry.ToldBy moment (Announcement.all moment registry) := by
  constructor
  · unfold Announcement.all
    rw [List.map_map]
    refine (identities_perm wellFormed).nodup_iff.mp ((pairwise_identities wellFormed).imp ?_)
    exact fun before equal => (equal ▸ before).asymm (equal ▸ before)
  · intro announcement
    rw [directory_eq_some_iff_listed wellFormed, Announcement.all, List.mem_map]
    constructor
    · rintro ⟨occurrence, listed, rfl⟩
      exact ⟨rfl, rfl, occurrence, listed, rfl, rfl⟩
    · obtain ⟨_, _, _, _⟩ := announcement
      rintro ⟨rfl, rfl, occurrence, listed, rfl, rfl⟩
      exact ⟨occurrence, listed, rfl⟩

end Registry

/-! ### What a node tells in the course of time -/

namespace Node

/-- The event leaves the periodic telling to itself. -/
def Event.IsSteady : Event → Prop
  | .startAnnouncing _ | .stopAnnouncing => False
  | _ => True

/-- What the periodic telling tells while something happens, moment by moment. -/
def tellings (node : Node) : Event → List (List Announcement)
  | .wait span => (node.announcing.advance (node.now.after span)).1.map fun moment =>
    Announcement.all moment node.registry
  | _ => []

/-- What the periodic telling tells while several things happen, moment by moment. -/
def allTellings (node : Node) : List Event → List (List Announcement)
  | [] => []
  | event :: others => node.tellings event ++ (node.step event).allTellings others

/-- In a wait after the first of the events the clock passes a moment. -/
def Passes (node : Node) (events before : List Event) (moment : Instant) : Prop :=
  ∃ span rest, events = before ++ .wait span :: rest ∧
    (node.after before).now.nanoseconds < moment.nanoseconds ∧
    moment.nanoseconds ≤ ((node.after before).now.after span).nanoseconds

/-- The periodic telling of a node goes on as it began. -/
structure Announces (node : Node) (begun : Instant) (period : Duration) : Prop where
  positive : 0 < period.nanoseconds
  underway : node.announcing = .underway begun node.now period
  ordered : begun.nanoseconds ≤ node.now.nanoseconds
  reached : node.now.nanoseconds ≤ Instant.last.nanoseconds

variable {node : Node} {begun : Instant} {period : Duration} {event : Event}
  {events before : List Event}

theorem log_wait (node : Node) (span : Duration) :
    (node.step (.wait span)).log = node.log ++ (node.tellings (.wait span)).flatten :=
  congrArg (node.log ++ ·) List.flatMap_def

theorem after_append (node : Node) (before rest : List Event) :
    node.after (before ++ rest) = (node.after before).after rest :=
  List.foldl_append

theorem allTellings_append (node : Node) (before rest : List Event) :
    node.allTellings (before ++ rest) =
      node.allTellings before ++ (node.after before).allTellings rest := by
  induction before generalizing node with
  | nil => rfl
  | cons event others inductionHypothesis =>
    show node.tellings event ++ (node.step event).allTellings (others ++ rest) =
      (node.tellings event ++ _) ++ _
    rw [inductionHypothesis, List.append_assoc]
    rfl

theorem still_changed {change : Except DiscoveryError (Registry × List Notice)} :
    (node.changed (change.map fun result => node.withRegistry result.1 result.2)).announcing =
        node.announcing ∧
      (node.changed (change.map fun result => node.withRegistry result.1 result.2)).now =
        node.now := by
  cases change <;> exact ⟨rfl, rfl⟩

/-- Whatever takes no time and leaves the periodic telling to itself changes neither it nor the
clock. -/
theorem still_step (node : Node) (steady : event.IsSteady)
    (timeless : ∀ span, event ≠ .wait span) :
    node.tellings event = [] ∧ (node.step event).announcing = node.announcing ∧
      (node.step event).now = node.now := by
  cases event with
  | register | unregister => exact ⟨rfl, still_changed⟩
  | tell told =>
    show _ ∧ Node.announcing (if _ then _ else _) = _ ∧ Node.now (if _ then _ else _) = _
    split <;> exact ⟨rfl, rfl, rfl⟩
  | resolve query busy outcome =>
    have frame : node.step (.resolve query busy outcome) = _ :=
      (node.resolve_frame query busy outcome).1
    rw [frame]
    exact ⟨rfl, rfl, rfl⟩
  | call context outcome call =>
    have frame : node.step (.call context outcome call) = _ :=
      (Http.handle_course context node outcome call).frame
    rw [frame]
    exact ⟨rfl, rfl, rfl⟩
  | startAnnouncing | stopAnnouncing => exact steady.elim
  | wait span => exact absurd rfl (timeless span)
  | host | add | remove | lookupExact | lookupCompatible | clear | round => exact ⟨rfl, rfl, rfl⟩

namespace Announces

theorem start (reachable : node.Reachable) (positive : 0 < period.nanoseconds) :
    (node.startAnnouncing period).Announces node.now period :=
  ⟨positive, Announcing.start_eq positive, Nat.le_refl _, reachable.moment.wellFormed.reached⟩

theorem advance_eq (announces : node.Announces begun period) (span : Duration) :
    node.announcing.advance (node.now.after span) =
      (Announcing.due begun period node.now (node.now.after span),
        .underway begun (node.now.after span) period) := by
  rw [announces.underway]
  exact Announcing.advance_underway announces.positive announces.ordered
    (Instant.le_after announces.reached span) (Instant.after_reached _ _)

theorem tellings_wait (announces : node.Announces begun period) (span : Duration) :
    node.tellings (.wait span) =
      (Announcing.due begun period node.now (node.now.after span)).map fun moment =>
        Announcement.all moment node.registry := by
  show (node.announcing.advance _).1.map _ = _
  rw [announces.advance_eq]

/-- Nothing that happens breaks the rhythm of the telling, and whatever takes time has a telling
for each period that ends meanwhile. -/
theorem step (announces : node.Announces begun period) (steady : event.IsSteady) :
    (node.step event).Announces begun period ∧
      Announcing.elapsed begun node.now period + (node.tellings event).length =
        Announcing.elapsed begun (node.step event).now period := by
  by_cases waits : ∃ span, event = .wait span
  · obtain ⟨span, rfl⟩ := waits
    have later := Instant.le_after announces.reached span
    refine ⟨⟨announces.positive, congrArg Prod.snd (announces.advance_eq span),
      Nat.le_trans announces.ordered later, Instant.after_reached _ _⟩, ?_⟩
    rw [announces.tellings_wait, List.length_map]
    exact Announcing.length_due begun period later
  · obtain ⟨silent, announcing, now⟩ := still_step node steady (not_exists.mp waits)
    rw [silent, now]
    refine ⟨⟨announces.positive, ?_, ?_, ?_⟩, rfl⟩
    · rw [announcing, now]
      exact announces.underway
    · exact now ▸ announces.ordered
    · exact now ▸ announces.reached

theorem wait (announces : node.Announces begun period) (span : Duration) :
    (node.step (.wait span)).Announces begun period :=
  (announces.step (show Event.IsSteady (.wait span) from trivial)).1

/-- A period is over when the clock of the node shows its end. -/
theorem le_elapsed_iff (announces : node.Announces begun period) {index : Nat} :
    index ≤ Announcing.elapsed begun node.now period ↔
      (Announcing.moment begun period index).nanoseconds ≤ node.now.nanoseconds :=
  Announcing.le_elapsed_iff announces.positive announces.ordered

/-- After any events everything was told once for each period that ended. -/
theorem after (announces : node.Announces begun period)
    (steady : ∀ event ∈ events, event.IsSteady) :
    (node.after events).Announces begun period ∧
      Announcing.elapsed begun node.now period + (node.allTellings events).length =
        Announcing.elapsed begun (node.after events).now period := by
  induction events generalizing node with
  | nil => exact ⟨announces, rfl⟩
  | cons event others inductionHypothesis =>
    obtain ⟨first, rest⟩ := List.forall_mem_cons.mp steady
    obtain ⟨next, counted⟩ := announces.step first
    obtain ⟨last, alsoCounted⟩ := inductionHypothesis next rest
    refine ⟨last, ?_⟩
    show _ + (node.tellings event ++ _).length = _
    rw [List.length_append, ← Nat.add_assoc, counted]
    exact alsoCounted

theorem length_allTellings (announces : node.Announces node.now period)
    (steady : ∀ event ∈ events, event.IsSteady) :
    (node.allTellings events).length =
      Announcing.elapsed node.now (node.after events).now period := by
  have counted := (announces.after steady).2
  rwa [Announcing.elapsed_self, Nat.zero_add] at counted

/-- When the clock passes the end of a period, everything is told. -/
theorem getElem?_of_passes (announces : node.Announces node.now period)
    (steady : ∀ event ∈ events, event.IsSteady) {index : Nat}
    (passes : node.Passes events before (Announcing.moment node.now period (index + 1))) :
    (node.allTellings events)[index]? =
      some (Announcement.all (Announcing.moment node.now period (index + 1))
        (node.after before).registry) := by
  obtain ⟨span, rest, rfl, after, upTo⟩ := passes
  have steadyBefore := fun event member => steady event (List.mem_append_left _ member)
  have there := (announces.after steadyBefore).1
  have counted := announces.length_allTellings steadyBefore
  have past : Announcing.elapsed node.now (node.after before).now period ≤ index :=
    Nat.le_of_lt_succ (Nat.lt_of_not_le fun due =>
      Nat.not_le_of_lt after (there.le_elapsed_iff.mp due))
  have due : index + 1 ≤ Announcing.elapsed node.now ((node.after before).now.after span) period :=
    (there.wait span).le_elapsed_iff.mpr upTo
  have found := Announcing.getElem?_due past due
  rw [allTellings_append, List.getElem?_append_right (counted ▸ past), counted]
  show ((node.after before).tellings (.wait span) ++ _)[_]? = _
  rw [there.tellings_wait, List.getElem?_append_left, List.getElem?_map, found]
  · rfl
  · rw [List.length_map]
    exact (List.getElem?_eq_some_iff.mp found).1

/-- The end of a period that is over was passed. -/
theorem exists_passes (announces : node.Announces node.now period)
    (steady : ∀ event ∈ events, event.IsSteady) {index : Nat}
    (ended : index < Announcing.elapsed node.now (node.after events).now period) :
    ∃ before, node.Passes events before (Announcing.moment node.now period (index + 1)) := by
  induction events using List.reverseRecOn with
  | nil =>
    rw [show (node.after []).now = node.now from rfl, Announcing.elapsed_self] at ended
    exact absurd ended (Nat.not_lt_zero index)
  | append_singleton events event inductionHypothesis =>
    have steadyBefore := fun event member => steady event (List.mem_append_left _ member)
    have there := (announces.after steadyBefore).1
    rw [after_append] at ended
    by_cases earlier : index < Announcing.elapsed node.now (node.after events).now period
    · obtain ⟨before, span, rest, split, passed⟩ := inductionHypothesis steadyBefore earlier
      refine ⟨before, span, rest ++ [event], ?_, passed⟩
      rw [split, List.append_assoc]
      rfl
    · by_cases waits : ∃ span, event = .wait span
      · obtain ⟨span, rfl⟩ := waits
        exact ⟨events, span, [], rfl,
          Nat.lt_of_not_le fun due => earlier (there.le_elapsed_iff.mpr due),
          (there.wait span).le_elapsed_iff.mp ended⟩
      · have steadyLast := steady event (List.mem_append_right _ (List.mem_singleton_self event))
        obtain ⟨_, _, now⟩ := still_step (node.after events) steadyLast (not_exists.mp waits)
        change index < Announcing.elapsed node.now ((node.after events).step event).now period
          at ended
        exact absurd (now ▸ ended) earlier

/-- In two waits the same is told as in one, and they come to the same. -/
theorem wait_wait (announces : node.Announces begun period) (first second : Duration) :
    node.tellings (.wait first) ++ (node.step (.wait first)).tellings (.wait second) =
        node.tellings (.wait ⟨first.nanoseconds + second.nanoseconds⟩) ∧
      (node.step (.wait first)).step (.wait second) =
        node.step (.wait ⟨first.nanoseconds + second.nanoseconds⟩) := by
  have next := announces.wait first
  have last := next.wait second
  have joined := announces.wait ⟨first.nanoseconds + second.nanoseconds⟩
  have sameEnd : (node.now.after first).after second =
      node.now.after ⟨first.nanoseconds + second.nanoseconds⟩ := Instant.after_after _ _ _
  have told : node.tellings (.wait first) ++ (node.step (.wait first)).tellings (.wait second) =
      node.tellings (.wait ⟨first.nanoseconds + second.nanoseconds⟩) := by
    rw [announces.tellings_wait, next.tellings_wait,
      announces.tellings_wait, ← sameEnd]
    refine List.map_append.symm.trans (congrArg (List.map _) ?_)
    exact Announcing.due_append begun period (Instant.le_after announces.reached first)
      (Instant.le_after next.reached second)
  refine ⟨told, (Node.mk.injEq ..).mpr ⟨rfl, sameEnd, ?_, ?_, rfl⟩⟩
  · show ((node.step (.wait first)).step (.wait second)).log = (node.step (.wait _)).log
    rw [log_wait, log_wait, log_wait, ← told, List.flatten_append, List.append_assoc]
  · show ((node.step (.wait first)).step (.wait second)).announcing =
      (node.step (.wait _)).announcing
    rw [last.underway, joined.underway]
    exact congrArg (Announcing.underway begun · period) sameEnd

/-- Nothing is told before the first period is over. -/
theorem allTellings_of_early (announces : node.Announces node.now period)
    (steady : ∀ event ∈ events, event.IsSteady)
    (early : (node.after events).now.nanoseconds < node.now.nanoseconds + period.nanoseconds) :
    node.allTellings events = [] := by
  have ordered := (announces.after steady).1.ordered
  rw [List.eq_nil_iff_length_eq_zero, announces.length_allTellings steady]
  exact Nat.div_eq_of_lt (Nat.sub_lt_left_of_lt_add ordered early)

/-- A telling whose first moment lies beyond the clock waits for it without end. -/
theorem silent_of_beyond (announces : node.Announces node.now period)
    (steady : ∀ event ∈ events, event.IsSteady)
    (beyond : Instant.last.nanoseconds < node.now.nanoseconds + period.nanoseconds) :
    node.allTellings events = [] ∧ (node.after events).announcing = .running none period := by
  have there := (announces.after steady).1
  have silent := announces.allTellings_of_early steady (Nat.lt_of_le_of_lt there.reached beyond)
  have none : Announcing.elapsed node.now (node.after events).now period = 0 :=
    (announces.length_allTellings steady).symm.trans (congrArg List.length silent)
  have unreachable : ¬ (Announcing.moment node.now period (0 + 1)).nanoseconds ≤
      Instant.last.nanoseconds := by
    show ¬ node.now.nanoseconds + (0 + 1) * period.nanoseconds ≤ Instant.last.nanoseconds
    omega
  refine ⟨silent, there.underway.trans ?_⟩
  rw [Announcing.underway, none, Instant.reached?, if_neg unreachable]

/-- Two waits in a row can be joined. -/
theorem allTellings_join (announces : node.Announces begun period) {before rest : List Event}
    (steady : ∀ event ∈ before, event.IsSteady) (first second : Duration) :
    node.allTellings (before ++ .wait ⟨first.nanoseconds + second.nanoseconds⟩ :: rest) =
        node.allTellings (before ++ .wait first :: .wait second :: rest) ∧
      node.after (before ++ .wait ⟨first.nanoseconds + second.nanoseconds⟩ :: rest) =
        node.after (before ++ .wait first :: .wait second :: rest) := by
  obtain ⟨sameTold, sameNode⟩ := (announces.after steady).1.wait_wait first second
  rw [after_append, after_append, allTellings_append, allTellings_append]
  refine ⟨congrArg (_ ++ ·) ?_, congrArg (Node.after · rest) sameNode.symm⟩
  show (node.after before).tellings _ ++ allTellings _ rest =
    (node.after before).tellings _ ++ (tellings _ _ ++ allTellings _ rest)
  rw [← List.append_assoc, sameTold, sameNode]

end Announces

/-- Once a node has started to tell everything once in every period, it has done so as many times
as periods are over, whatever else it does. The telling with an index comes when the clock passes
the end of that period; it tells once of every service that the node has then, and of nothing
else. Hence nothing is told before the first period is over, and nothing ever if the clock ends
before it, though the telling goes on waiting. Two waits without anything between them tell what
one of their length tells, and leave the same node. What is told in a wait is what the wait adds
to the log. -/
theorem announcing_exact (reachable : node.Reachable) (positive : 0 < period.nanoseconds)
    (steady : ∀ event ∈ events, event.IsSteady) :
    let start := node.startAnnouncing period
    let told := start.allTellings events
    let final := start.after events
    told.length =
        (final.now.nanoseconds - node.now.nanoseconds) / period.nanoseconds ∧
    (∀ index batch, told[index]? = some batch ↔
      ∃ before, start.Passes events before (Announcing.moment node.now period (index + 1)) ∧
        (start.after before).registry.ToldBy (Announcing.moment node.now period (index + 1)) batch ∧
        batch = Announcement.all (Announcing.moment node.now period (index + 1))
          (start.after before).registry) ∧
    (final.now.nanoseconds < node.now.nanoseconds + period.nanoseconds → told = []) ∧
    (Instant.last.nanoseconds < node.now.nanoseconds + period.nanoseconds →
      told = [] ∧ final.announcing = .running none period) ∧
    (∀ before first second rest, events = before ++ .wait first :: .wait second :: rest →
      start.allTellings (before ++ .wait ⟨first.nanoseconds + second.nanoseconds⟩ :: rest) = told ∧
      start.after (before ++ .wait ⟨first.nanoseconds + second.nanoseconds⟩ :: rest) = final) ∧
    ∀ span, (final.step (.wait span)).log =
      final.log ++ (final.tellings (.wait span)).flatten := by
  intro start told final
  have announces : start.Announces start.now period := Announces.start reachable positive
  have counted : told.length = Announcing.elapsed start.now final.now period :=
    announces.length_allTellings steady
  refine ⟨counted, fun index batch => ⟨fun found => ?_, ?_⟩,
    announces.allTellings_of_early steady, announces.silent_of_beyond steady,
    fun before first second rest split => ?_, log_wait final⟩
  · have ended : index < Announcing.elapsed start.now final.now period :=
      counted ▸ (List.getElem?_eq_some_iff.mp found).1
    obtain ⟨before, passes⟩ := announces.exists_passes steady ended
    have all := announces.getElem?_of_passes steady passes
    obtain rfl := Option.some.inj (found.symm.trans all)
    have reachableThen := (reachable.step (.startAnnouncing period)).after before
    exact ⟨before, passes, Registry.toldBy_all reachableThen.wellFormed.registry _, rfl⟩
  · rintro ⟨before, passes, _, rfl⟩
    exact announces.getElem?_of_passes steady passes
  · have steadyBefore : ∀ event ∈ before, event.IsSteady := fun event member =>
      steady event (split ▸ List.mem_append_left _ member)
    show _ = start.allTellings events ∧ _ = start.after events
    rw [split]
    exact announces.allTellings_join steadyBefore first second

/-- A node that runs one service when its clock shows one nanosecond. -/
def reminder : Node :=
  (Node.empty (Bytes32.filled 0) ⟨5⟩).after [.register recurring ⟨7, "first"⟩, .wait ⟨1⟩]

/-- A second service comes just before the first one goes. -/
def handover : List Event :=
  [.wait ⟨1⟩, .wait ⟨2⟩, .register ⟨"farewell", ⟨1, 0, 0⟩⟩ ⟨8, "second"⟩, .wait ⟨1⟩,
    .unregister recurring ⟨7, "first"⟩, .wait ⟨4⟩]

theorem reachable_reminder : reminder.Reachable :=
  (Reachable.start (Bytes32.filled 0) ⟨5⟩ (Nat.zero_le _)).after _

theorem steady_handover : ∀ event ∈ handover, event.IsSteady := by
  simp [handover, Event.IsSteady]

/-- At every second nanosecond from the third on everything is told: one service, both, and twice
the other one. With a period as long as the clock nothing is told. -/
theorem announcing_exact_handover :
    let start := reminder.startAnnouncing ⟨2⟩
    let told := start.allTellings handover
    reminder.Reachable ∧ (∀ event ∈ handover, event.IsSteady) ∧ told.length = 4 ∧
      told.map (List.map fun announcement => (announcement.moment, announcement.identity.name)) =
        [[(⟨3⟩, "recurring")], [(⟨5⟩, "recurring"), (⟨5⟩, "farewell")], [(⟨7⟩, "farewell")],
          [(⟨9⟩, "farewell")]] ∧
      start.after (.wait ⟨3⟩ :: handover.drop 2) = start.after handover ∧
      (reminder.startAnnouncing ⟨Instant.last.nanoseconds⟩).allTellings handover = [] := by
  have positive : 0 < (Duration.mk 2).nanoseconds := by decide
  have positiveToo : 0 < (Duration.mk Instant.last.nanoseconds).nanoseconds := by decide
  obtain ⟨count, _, _, _, joins, _⟩ :=
    announcing_exact reachable_reminder positive steady_handover
  obtain ⟨_, _, _, never, _⟩ := announcing_exact reachable_reminder positiveToo steady_handover
  refine ⟨reachable_reminder, steady_handover, count.trans (by rfl), by rfl,
    (joins [] ⟨1⟩ ⟨2⟩ (handover.drop 2) rfl).2, (never ?_).1⟩
  exact Nat.lt_add_of_pos_left (by decide)

end Node

end ServiceDiscovery
