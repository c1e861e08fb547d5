/-
This file proves what a round collects and when it is over. A schedule of events may go on for
ever, but collecting looks at one event after the other and is left in one of four ways: nothing is
wanted, the last wanted datagram came, receiving failed, or the next event is not there by the
deadline. Each way says which events were taken, and from the order of events it follows that these
are the longest beginning that could be collected, and that collecting ended at the earliest moment
that could end it.
-/

import ServiceDiscovery.Collecting
import ServiceDiscovery.Proofs.Instances

namespace ServiceDiscovery

namespace Collecting

/-- The bytes of a datagram that arrives. -/
def Arrival.bytes? (arrival : Arrival) : Option Bytes :=
  match arrival.event with
  | .datagram bytes => some bytes
  | .failure => none

theorem isLate_eq_false_iff {deadline : Option Instant} {moment : Instant} :
    isLate deadline moment = false ↔
      ∀ last, deadline = some last → moment.nanoseconds ≤ last.nanoseconds := by
  cases deadline with
  | none => exact iff_of_true rfl fun last impossible => nomatch impossible
  | some last =>
    show decide (last.nanoseconds < moment.nanoseconds) = false ↔ _
    rw [decide_eq_false_iff_not, Nat.not_lt]
    constructor
    · rintro inTime _ ⟨⟩
      exact inTime
    · intro inTime
      exact inTime last rfl

/-- The first moment of a kind. -/
def Earliest (kind : Instant → Prop) (moment : Instant) : Prop :=
  kind moment ∧ ∀ other, kind other → moment.nanoseconds ≤ other.nanoseconds

theorem Earliest.unique {kind : Instant → Prop} {first second : Instant}
    (firstEarliest : Earliest kind first) (secondEarliest : Earliest kind second) :
    first = second :=
  congrArg Instant.mk (Nat.le_antisymm (firstEarliest.2 second secondEarliest.1)
    (secondEarliest.2 first firstEarliest.1))

namespace Schedule

/-! ### The beginnings of a schedule -/

variable {schedule : Schedule}

/-- The first events, fewer if the schedule ends before. -/
def beginning (schedule : Schedule) (count : Nat) : List Arrival :=
  (List.range count).filterMap schedule.event

theorem beginning_succ_of_some {arrival : Arrival} (first : schedule.event 0 = some arrival)
    (count : Nat) : schedule.beginning (count + 1) = arrival :: schedule.rest.beginning count := by
  rw [beginning, List.range_succ_eq_map, List.filterMap_cons_some first, List.filterMap_map]
  rfl

theorem mem_beginning_iff {count : Nat} {arrival : Arrival} :
    arrival ∈ schedule.beginning count ↔ ∃ index < count, schedule.event index = some arrival := by
  rw [beginning, List.mem_filterMap]
  simp only [List.mem_range]

theorem beginning_isPrefix {count more : Nat} (atMost : count ≤ more) :
    schedule.beginning count <+: schedule.beginning more := by
  obtain ⟨extra, rfl⟩ := Nat.le.dest atMost
  unfold beginning
  rw [List.range_add, List.filterMap_append]
  exact List.prefix_append _ _

/-- Nothing comes after the end. -/
theorem event_of_ended {index : Nat} (ended : schedule.event index = none) {later : Nat}
    (atMost : index ≤ later) : schedule.event later = none := by
  induction atMost with
  | refl => exact ended
  | step _ inductionHypothesis => exact schedule.ends _ inductionHypothesis

theorem beginning_of_ended {count : Nat} (ended : schedule.event count = none) {more : Nat}
    (atMost : count ≤ more) : schedule.beginning more = schedule.beginning count := by
  obtain ⟨extra, rfl⟩ := Nat.le.dest atMost
  unfold beginning
  rw [List.range_add, List.filterMap_append, List.filterMap_map]
  refine (congrArg _ ?_).trans (List.append_nil _)
  exact List.filterMap_eq_nil_iff.mpr fun offset _ => event_of_ended ended (Nat.le_add_right _ _)

/-- Later events are not earlier. -/
theorem moment_le {index later : Nat} {first second : Arrival}
    (found : schedule.event index = some first) (laterFound : schedule.event later = some second)
    (atMost : index ≤ later) : first.moment.nanoseconds ≤ second.moment.nanoseconds := by
  induction atMost generalizing second with
  | refl =>
    cases found.symm.trans laterFound
    exact Nat.le_refl _
  | @step before _ inductionHypothesis =>
    cases between : schedule.event before with
    | none => exact nomatch (schedule.ends before between).symm.trans laterFound
    | some middle =>
      have next := of_decide_eq_true (schedule.ordered before middle second between laterFound)
      exact Nat.le_trans (inductionHypothesis between) next

/-! ### How collecting is left -/

variable {deadline ending : Option Instant} {start : Instant} {wanted count : Nat}

/-- The first events are datagrams, and none of them is late. -/
def Receives (schedule : Schedule) (deadline : Option Instant) (count : Nat) : Prop :=
  ∀ index < count, ∃ arrival bytes, schedule.event index = some arrival ∧
    arrival.event = .datagram bytes ∧ isLate deadline arrival.moment = false

/-- The ways in which collecting is left once some events have been taken. -/
inductive Exit (schedule : Schedule) (deadline : Option Instant) (start : Instant)
    (wanted : Nat) : Nat → Option Instant → Prop where
  | unwanted (nothing : wanted = 0) : Exit schedule deadline start wanted 0 (some start)
  | filled {index : Nat} {arrival : Arrival} (last : index + 1 = wanted)
      (found : schedule.event index = some arrival) :
      Exit schedule deadline start wanted (index + 1) (some arrival.moment)
  | failed {count : Nat} {arrival : Arrival} (few : count < wanted)
      (found : schedule.event count = some arrival) (failure : arrival.event = .failure)
      (inTime : isLate deadline arrival.moment = false) :
      Exit schedule deadline start wanted count (some arrival.moment)
  | overdue {count : Nat} (few : count < wanted)
      (late : ∀ arrival, schedule.event count = some arrival →
        isLate deadline arrival.moment = true) :
      Exit schedule deadline start wanted count deadline

theorem Exit.later {arrival : Arrival} (found : schedule.event 0 = some arrival)
    (exit : schedule.rest.Exit deadline arrival.moment wanted count ending) :
    schedule.Exit deadline start (wanted + 1) (count + 1) ending := by
  cases exit with
  | unwanted nothing => exact .filled (congrArg Nat.succ nothing.symm) found
  | filled last found => exact .filled (congrArg Nat.succ last) found
  | failed few found failure inTime => exact .failed (Nat.succ_lt_succ few) found failure inTime
  | overdue few late => exact .overdue (Nat.succ_lt_succ few) late

/-- Collecting takes the first events, and is left in one of the four ways. -/
theorem exists_exit (schedule : Schedule) (deadline : Option Instant) (start : Instant)
    (wanted : Nat) :
    ∃ count, schedule.Receives deadline count ∧
      (collect deadline start wanted schedule).datagrams =
        ((schedule.beginning count).filterMap Arrival.bytes?).map received ∧
      schedule.Exit deadline start wanted count
        (collect deadline start wanted schedule).ending := by
  induction wanted generalizing schedule start with
  | zero => exact ⟨0, fun _ impossible => absurd impossible (Nat.not_lt_zero _), rfl, .unwanted rfl⟩
  | succ wanted inductionHypothesis =>
    have nothing : schedule.Receives deadline 0 := fun _ impossible =>
      absurd impossible (Nat.not_lt_zero _)
    rw [collect]
    cases found : schedule.event 0 with
    | none =>
      refine ⟨0, nothing, rfl, .overdue (Nat.succ_pos _) fun arrival impossible => ?_⟩
      exact nomatch found.symm.trans impossible
    | some arrival =>
      simp only
      by_cases late : isLate deadline arrival.moment = true
      · rw [if_pos late]
        refine ⟨0, nothing, rfl, .overdue (Nat.succ_pos _) fun other same => ?_⟩
        cases found.symm.trans same
        exact late
      · have inTime := (Bool.not_eq_true _).mp late
        rw [if_neg late]
        cases event : arrival.event with
        | failure => exact ⟨0, nothing, rfl, .failed (Nat.succ_pos _) found event inTime⟩
        | datagram bytes =>
          obtain ⟨count, receives, datagrams, exit⟩ :=
            inductionHypothesis schedule.rest arrival.moment
          have first : arrival.bytes? = some bytes := by
            rw [Arrival.bytes?, event]
          refine ⟨count + 1, fun index bound => ?_, ?_, exit.later found⟩
          · cases index with
            | zero => exact ⟨arrival, bytes, found, event, inTime⟩
            | succ index => exact receives index (Nat.lt_of_succ_lt_succ bound)
          · rw [beginning_succ_of_some found, List.filterMap_cons_some first, List.map_cons,
              ← datagrams]
            rfl

/-! ### What is collected -/

/-- Events that could all be collected: every one is a datagram and in time, and they are not more
than are wanted. -/
structure Collectable (deadline : Option Instant) (wanted : Nat) (arrivals : List Arrival) :
    Prop where
  unbroken : ∀ arrival ∈ arrivals, arrival.event ≠ .failure
  inTime : ∀ arrival ∈ arrivals, ∀ last, deadline = some last →
    arrival.moment.nanoseconds ≤ last.nanoseconds
  few : arrivals.length ≤ wanted

namespace Receives

theorem length_beginning (receives : schedule.Receives deadline count) :
    (schedule.beginning count).length = count := by
  refine (List.filterMap_length_eq_length.mpr fun index bound => ?_).trans List.length_range
  obtain ⟨arrival, _, found, _⟩ := receives index (List.mem_range.mp bound)
  rw [found, Option.isSome_some]

theorem of_mem (receives : schedule.Receives deadline count) {arrival : Arrival}
    (taken : arrival ∈ schedule.beginning count) :
    ∃ bytes, arrival.event = .datagram bytes ∧ isLate deadline arrival.moment = false := by
  obtain ⟨index, bound, found⟩ := mem_beginning_iff.mp taken
  obtain ⟨same, bytes, sameFound, event, inTime⟩ := receives index bound
  cases found.symm.trans sameFound
  exact ⟨bytes, event, inTime⟩

/-- All received events are datagrams. -/
theorem length_datagrams (receives : schedule.Receives deadline count) :
    ((schedule.beginning count).filterMap Arrival.bytes?).length = count := by
  refine (List.filterMap_length_eq_length.mpr fun arrival taken => ?_).trans
    receives.length_beginning
  obtain ⟨bytes, event, _⟩ := receives.of_mem taken
  rw [Arrival.bytes?, event]
  rfl

theorem collectable (receives : schedule.Receives deadline count) (few : count ≤ wanted) :
    Collectable deadline wanted (schedule.beginning count) where
  unbroken arrival taken failure := by
    obtain ⟨bytes, event, _⟩ := receives.of_mem taken
    exact nomatch event.symm.trans failure
  inTime arrival taken := by
    obtain ⟨_, _, inTime⟩ := receives.of_mem taken
    exact isLate_eq_false_iff.mp inTime
  few := receives.length_beginning.symm ▸ few

end Receives

theorem Exit.le_wanted (exit : schedule.Exit deadline start wanted count ending) :
    count ≤ wanted := by
  cases exit with
  | unwanted _ => exact Nat.zero_le _
  | filled last _ => exact Nat.le_of_eq last
  | failed few _ _ _ => exact Nat.le_of_lt few
  | overdue few _ => exact Nat.le_of_lt few

/-- No longer beginning could be collected. -/
theorem Exit.longest (exit : schedule.Exit deadline start wanted count ending)
    (receives : schedule.Receives deadline count) {other : Nat}
    (collectable : Collectable deadline wanted (schedule.beginning other)) :
    schedule.beginning other <+: schedule.beginning count := by
  rcases Nat.lt_or_ge count other with further | atMost
  · -- Enough was taken, or the very next event cannot be collected.
    have full : count = wanted → schedule.beginning other <+: schedule.beginning count := by
      intro all
      have begins := schedule.beginning_isPrefix (Nat.le_of_lt further)
      have atMost := collectable.few
      rw [← all, ← receives.length_beginning] at atMost
      exact begins.eq_of_length_le atMost ▸ List.prefix_rfl
    cases exit with
    | unwanted nothing => exact full nothing.symm
    | filled last _ => exact full last
    | failed _ found failure _ =>
      exact absurd failure (collectable.unbroken _ (mem_beginning_iff.mpr ⟨_, further, found⟩))
    | overdue _ late =>
      cases next : schedule.event count with
      | none =>
        exact beginning_of_ended next (Nat.le_of_lt further) ▸ List.prefix_rfl
      | some arrival =>
        have inTime := collectable.inTime arrival (mem_beginning_iff.mpr ⟨_, further, next⟩)
        exact nomatch (late arrival next).symm.trans (isLate_eq_false_iff.mpr inTime)
  · exact beginning_isPrefix atMost

/-! ### When collecting is over -/

/-- The last wanted datagram comes at a moment. -/
def Fills (schedule : Schedule) (wanted : Nat) (moment : Instant) : Prop :=
  ∃ index arrival bytes, schedule.event index = some arrival ∧ arrival.event = .datagram bytes ∧
    ((schedule.beginning index).filterMap Arrival.bytes?).length + 1 = wanted ∧
    arrival.moment = moment

/-- The first failure to receive comes at a moment. -/
def Breaks (schedule : Schedule) (moment : Instant) : Prop :=
  ∃ index arrival, schedule.event index = some arrival ∧ arrival.event = .failure ∧
    (∀ earlier ∈ schedule.beginning index, earlier.event ≠ .failure) ∧ arrival.moment = moment

/-- An event ends collecting: the last wanted datagram or the first failure to receive. -/
def Halts (schedule : Schedule) (wanted : Nat) (moment : Instant) : Prop :=
  schedule.Fills wanted moment ∨ schedule.Breaks moment

/-- What ends collecting when something is wanted: an event or the deadline. -/
def Stops (schedule : Schedule) (wanted : Nat) (deadline : Option Instant) (moment : Instant) :
    Prop :=
  schedule.Halts wanted moment ∨ deadline = some moment

theorem forall_not_stops_iff :
    (∀ moment, ¬schedule.Stops wanted deadline moment) ↔
      deadline = none ∧ (∀ moment, ¬schedule.Fills wanted moment) ∧
      ∀ moment, ¬schedule.Breaks moment := by
  rw [Option.eq_none_iff_forall_ne_some]
  simp only [Stops, Halts, not_or, forall_and]
  exact And.comm

/-- The event after the received ones is not later than what ends collecting. -/
theorem Receives.next_le {moment : Instant} (receives : schedule.Receives deadline count)
    (few : count < wanted) (halts : schedule.Halts wanted moment) :
    ∃ next, schedule.event count = some next ∧ next.moment.nanoseconds ≤ moment.nanoseconds := by
  have found : ∃ index arrival, count ≤ index ∧ schedule.event index = some arrival ∧
      arrival.moment = moment := by
    rcases halts with ⟨index, arrival, _, found, _, enough, same⟩ |
      ⟨index, arrival, found, failure, _, same⟩
    · have atMost : ((schedule.beginning index).filterMap Arrival.bytes?).length ≤ index := by
        have all := List.length_filterMap_le schedule.event (List.range index)
        rw [List.length_range] at all
        exact Nat.le_trans (List.length_filterMap_le _ _) all
      exact ⟨index, arrival, by omega, found, same⟩
    · refine ⟨index, arrival, Nat.le_of_not_lt fun early => ?_, found, same⟩
      obtain ⟨other, bytes, otherFound, event, _⟩ := receives index early
      cases found.symm.trans otherFound
      exact nomatch event.symm.trans failure
  obtain ⟨index, arrival, atMost, found, rfl⟩ := found
  cases next : schedule.event count with
  | none => exact nomatch (event_of_ended next atMost).symm.trans found
  | some first => exact ⟨first, rfl, moment_le next found atMost⟩

/-- Nothing ends collecting before the next event, if that is in time. -/
theorem Receives.le_of_stops (receives : schedule.Receives deadline count) (few : count < wanted)
    {arrival : Arrival} (found : schedule.event count = some arrival)
    (inTime : isLate deadline arrival.moment = false) (moment : Instant)
    (stops : schedule.Stops wanted deadline moment) :
    arrival.moment.nanoseconds ≤ moment.nanoseconds := by
  rcases stops with halts | same
  · obtain ⟨next, nextFound, atMost⟩ := receives.next_le few halts
    cases found.symm.trans nextFound
    exact atMost
  · exact isLate_eq_false_iff.mp inTime moment same

/-- If something is wanted, collecting that ends does so at the earliest moment that can end it. -/
theorem Exit.earliest {moment : Instant}
    (exit : schedule.Exit deadline start wanted count (some moment)) (wants : wanted ≠ 0)
    (receives : schedule.Receives deadline count) :
    Earliest (schedule.Stops wanted deadline) moment := by
  generalize ending : some moment = ended at exit
  cases exit with
  | unwanted nothing => exact absurd nothing wants
  | @filled index arrival last found =>
    cases ending
    have before : schedule.Receives deadline index := fun earlier bound =>
      receives earlier (Nat.lt_succ_of_lt bound)
    obtain ⟨same, bytes, sameFound, event, inTime⟩ := receives index (Nat.lt_succ_self index)
    cases found.symm.trans sameFound
    have enough := (congrArg Nat.succ before.length_datagrams).trans last
    exact ⟨.inl (.inl ⟨index, arrival, bytes, found, event, enough, rfl⟩),
      before.le_of_stops (last ▸ Nat.lt_succ_self index) found inTime⟩
  | @failed _ arrival few found failure inTime =>
    cases ending
    have unbroken := (receives.collectable (Nat.le_of_lt few)).unbroken
    exact ⟨.inl (.inr ⟨count, arrival, found, failure, unbroken, rfl⟩),
      receives.le_of_stops few found inTime⟩
  | overdue few late =>
    refine ⟨.inr ending.symm, fun other stops => ?_⟩
    rcases stops with halts | same
    · obtain ⟨next, nextFound, atMost⟩ := receives.next_le few halts
      have past := late next nextFound
      rw [← ending] at past
      exact Nat.le_trans (Nat.le_of_lt (of_decide_eq_true past)) atMost
    · cases ending.trans same
      exact Nat.le_refl _

/-- If collecting never ends, then something is wanted and nothing ever ends it. -/
theorem Exit.endless (exit : schedule.Exit deadline start wanted count none)
    (receives : schedule.Receives deadline count) :
    wanted ≠ 0 ∧ ∀ moment, ¬schedule.Stops wanted deadline moment := by
  generalize ending : none = ended at exit
  cases exit with
  | unwanted _ => exact nomatch ending
  | filled _ _ => exact nomatch ending
  | failed _ _ _ _ => exact nomatch ending
  | overdue few late =>
    refine ⟨Nat.ne_zero_of_lt few, fun moment stops => ?_⟩
    rcases stops with halts | same
    · obtain ⟨next, nextFound, _⟩ := receives.next_le few halts
      have past := late next nextFound
      rw [← ending] at past
      exact nomatch past
    · exact nomatch ending.trans same

end Schedule

/-- Collecting takes the longest beginning of a schedule, endless or not, that holds no failure, no
more events than are wanted and none after the deadline; an event at the deadline is in time. It
returns the datagrams of this beginning in their order, each cut to the size of a datagram. It is
over at once if nothing is wanted, and otherwise at the earliest of the last wanted datagram, the
first failure to receive and the deadline. It never ends exactly if something is wanted, the
deadline is past the end of the clock, and neither of the two events ever comes. -/
theorem collectFor_cutOff (start : Instant) (wanted : Nat) (span : Duration)
    (schedule : Schedule) :
    (∃ count, Schedule.Collectable (start.add? span) wanted (schedule.beginning count) ∧
      (∀ other, Schedule.Collectable (start.add? span) wanted (schedule.beginning other) →
        schedule.beginning other <+: schedule.beginning count) ∧
      (collectFor start wanted span schedule).datagrams =
        ((schedule.beginning count).filterMap Arrival.bytes?).map (List.take 1200)) ∧
    (wanted = 0 → (collectFor start wanted span schedule).ending = some start) ∧
    (wanted ≠ 0 → ∀ moment, (collectFor start wanted span schedule).ending = some moment ↔
      Earliest (schedule.Stops wanted (start.add? span)) moment) ∧
    ((collectFor start wanted span schedule).ending = none ↔
      wanted ≠ 0 ∧ Instant.last.nanoseconds < start.nanoseconds + span.nanoseconds ∧
      (∀ moment, ¬schedule.Fills wanted moment) ∧ ∀ moment, ¬schedule.Breaks moment) := by
  obtain ⟨count, receives, datagrams, exit⟩ :=
    schedule.exists_exit (start.add? span) start wanted
  refine ⟨⟨count, receives.collectable exit.le_wanted, fun other => exit.longest receives,
    datagrams⟩, ?_, fun wants moment => ?_, ?_⟩
  · rintro rfl
    rfl
  · cases ending : (collectFor start wanted span schedule).ending with
    | none =>
      have never := (Schedule.Exit.endless (ending ▸ exit) receives).2
      exact iff_of_false nofun fun earliest => never moment earliest.1
    | some other =>
      have earliest := Schedule.Exit.earliest (ending ▸ exit) wants receives
      constructor
      · rintro ⟨⟩
        exact earliest
      · intro same
        rw [earliest.unique same]
  · rw [← Instant.add_eq_none_iff, ← Schedule.forall_not_stops_iff]
    constructor
    · intro ending
      exact Schedule.Exit.endless (ending ▸ exit) receives
    · rintro ⟨wants, never⟩
      cases ending : (collectFor start wanted span schedule).ending with
      | none => rfl
      | some moment =>
        have earliest := Schedule.Exit.earliest (ending ▸ exit) wants receives
        exact absurd earliest.1 (never moment)

/-- What arrives at the deadline counts, each of several events; what arrives after it does not. -/
example :
    collectFor Instant.zero 3 ⟨5⟩ (Schedule.ofSorted [⟨⟨5⟩, .datagram [1]⟩, ⟨⟨5⟩, .datagram [2]⟩,
      ⟨⟨6⟩, .datagram [3]⟩] (by decide)) = ⟨[[1], [2]], some ⟨5⟩⟩ := by
  decide

end Collecting

end ServiceDiscovery
