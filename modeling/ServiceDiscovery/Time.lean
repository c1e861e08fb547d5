/-
This file holds spans of time and instants of a node's clock, both counted in nanoseconds. The
clock has a last instant; adding a span to an instant can go past it, and has no result then.
-/

import ServiceDiscovery.Text.Natural

namespace ServiceDiscovery

/-- A span of time. -/
structure Duration where
  nanoseconds : Nat
  deriving DecidableEq, Repr

namespace Duration

def nanosecondsPerMillisecond : Nat := 1000000
def nanosecondsPerSecond : Nat := 1000000000

def ofSeconds (seconds : Nat) : Duration :=
  ⟨seconds * nanosecondsPerSecond⟩

def ofMilliseconds (milliseconds : Nat) : Duration :=
  ⟨milliseconds * nanosecondsPerMillisecond⟩

def ofParts (seconds nanoseconds : Nat) : Duration :=
  ⟨seconds * nanosecondsPerSecond + nanoseconds⟩

/-- The whole seconds of a span. -/
def seconds (span : Duration) : Nat :=
  span.nanoseconds / nanosecondsPerSecond

/-- The whole milliseconds of a span. -/
def milliseconds (span : Duration) : Nat :=
  span.nanoseconds / nanosecondsPerMillisecond

/-- The whole milliseconds of a span in a counter of 64 bits, which starts over when full. -/
def countedMilliseconds (span : Duration) : UInt64 :=
  UInt64.ofNat span.milliseconds

/-- A count of parts of a unit, written after a point without the zeros at its end. -/
def fractionText (parts width : Nat) : List Char :=
  if parts = 0 then []
  else '.' :: ((Text.paddedDecimal width parts).reverse.dropWhile fun char => char == '0').reverse

/-- A span in the largest unit of which it has at least one, to the nanosecond. -/
def display (span : Duration) : String :=
  if 0 < span.seconds then
    String.ofList (Text.decimal span.seconds ++
      fractionText (span.nanoseconds % nanosecondsPerSecond) 9) ++ "s"
  else if 0 < span.milliseconds then
    String.ofList (Text.decimal span.milliseconds ++
      fractionText (span.nanoseconds % nanosecondsPerMillisecond) 6) ++ "ms"
  else if 1000 ≤ span.nanoseconds then
    String.ofList (Text.decimal (span.nanoseconds / 1000) ++
      fractionText (span.nanoseconds % 1000) 3) ++ "µs"
  else String.ofList (Text.decimal span.nanoseconds) ++ "ns"

end Duration

/-- A moment on the clock, by the time since the clock's zero. -/
structure Instant where
  nanoseconds : Nat
  deriving DecidableEq, Repr

namespace Instant

def zero : Instant := ⟨0⟩

/-- The last moment that the clock can show: seconds are counted in 63 bits. -/
def last : Instant :=
  ⟨(Nat.pow 2 63 - 1) * Duration.nanosecondsPerSecond + (Duration.nanosecondsPerSecond - 1)⟩

def ofMilliseconds (milliseconds : Nat) : Instant :=
  ⟨milliseconds * Duration.nanosecondsPerMillisecond⟩

/-- The whole milliseconds since the clock's zero. -/
def milliseconds (moment : Instant) : Nat :=
  moment.nanoseconds / Duration.nanosecondsPerMillisecond

/-- The moment a span later on a clock that does not end. -/
def later (moment : Instant) (span : Duration) : Instant :=
  ⟨moment.nanoseconds + span.nanoseconds⟩

/-- The moment, if the clock reaches it. -/
def reached? (moment : Instant) : Option Instant :=
  if moment.nanoseconds ≤ last.nanoseconds then some moment else none

/-- The moment a span later, if the clock reaches it. -/
def add? (moment : Instant) (span : Duration) : Option Instant :=
  (moment.later span).reached?

/-- The time from an earlier moment to this one. -/
def since (moment earlier : Instant) : Duration :=
  ⟨moment.nanoseconds - earlier.nanoseconds⟩

def before (first second : Instant) : Bool :=
  first.nanoseconds < second.nanoseconds

end Instant

end ServiceDiscovery
