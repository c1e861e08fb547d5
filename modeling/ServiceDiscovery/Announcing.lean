/-
This file holds what a node tells an outside directory about its services. Registrations are
told when they happen; beyond that, a node can tell again about everything that it runs, once
in every period, the first time one period after the start. A period that ends past the end of
the clock is waited for without end, and an empty period ends the telling at once.
-/

import ServiceDiscovery.Registry

namespace ServiceDiscovery

/-- A service came, or is still there; or it went. -/
inductive Announcement.Kind where
  | deployed
  | ended
  deriving DecidableEq, Repr

/-- An entry of the log of announcements. -/
structure Announcement where
  moment : Instant
  kind : Announcement.Kind
  identity : Identity
  agent : AgentId
  deriving DecidableEq, Repr

namespace Announcement

def ofNotice (moment : Instant) : Notice → Announcement
  | .deployed occurrence => ⟨moment, .deployed, occurrence.identity, occurrence.agent⟩
  | .ended occurrence => ⟨moment, .ended, occurrence.identity, occurrence.agent⟩

/-- Everything that runs, told at one moment. -/
def all (moment : Instant) (registry : Registry) : List Announcement :=
  registry.snapshot.map fun occurrence => ofNotice moment (.deployed occurrence)

def Kind.display : Kind → String
  | .deployed => "deployed"
  | .ended => "ended"

/-- The order by moment, then kind, identity and agent. -/
def compare (first second : Announcement) : Ordering :=
  (Ord.compare first.moment.nanoseconds second.moment.nanoseconds).then
    ((Identity.compareNames first.kind.display second.kind.display).then
      ((first.identity.compare second.identity).then
        (Identity.compareNames first.agent second.agent)))

/-- Announcements in their order. -/
def sorted (announcements : List Announcement) : List Announcement :=
  announcements.mergeSort fun first second => (first.compare second).isLE

end Announcement

/-- The periodic telling: not started, waiting for its next moment, or over. -/
inductive Announcing where
  | idle
  | running (next : Option Instant) (period : Duration)
  | finished
  deriving DecidableEq, Repr

namespace Announcing

def start (now : Instant) (period : Duration) : Announcing :=
  if period.nanoseconds = 0 then .finished else .running (now.add? period) period

def stop : Announcing → Announcing
  | .idle => .idle
  | _ => .finished

/-- The number of moments from the next one on, a period apart, up to a target. -/
def ticks (next target : Instant) (period : Duration) : Nat :=
  if next.nanoseconds ≤ target.nanoseconds then
    (target.nanoseconds - next.nanoseconds) / period.nanoseconds + 1
  else 0

/-- The moment some periods later. -/
def moment (next : Instant) (period : Duration) (index : Nat) : Instant :=
  ⟨next.nanoseconds + index * period.nanoseconds⟩

/-- The moments up to a target at which everything is told, and the state after them. -/
def advance (target : Instant) : Announcing → List Instant × Announcing
  | .running (some next) period =>
    ((List.range (ticks next target period)).map (moment next period),
      .running (moment next period (ticks next target period)).reached? period)
  | other => ([], other)

end Announcing

end ServiceDiscovery
