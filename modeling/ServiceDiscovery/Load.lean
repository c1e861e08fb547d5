/-
This file decides whether a node is busy. Once in every period a reading is taken, a text whose
first word is the average load; the node is busy while the last average that could be read
exceeds the threshold. Without any reading it is not busy.
-/

import ServiceDiscovery.Number.Reading
import ServiceDiscovery.Text.Blank
import ServiceDiscovery.Time

namespace ServiceDiscovery.Load

/-- How often a node takes a reading. -/
def samplePeriod : Duration := Duration.ofSeconds 5

/-- The average load in a reading. -/
def average? (text : String) : Option Double :=
  Double.parse? (Text.firstWord text.toList)

/-- Whether the node is busy after a reading, which may have failed. -/
def sample (threshold : Double) (busy : Bool) (reading : Option String) : Bool :=
  match reading.bind average? with
  | some load => load.exceeds threshold
  | none => busy

/-- Whether the node is busy, before each of some readings and after the last. -/
def statesFrom (threshold : Double) : Bool → List (Option String) → List Bool
  | busy, [] => [busy]
  | busy, reading :: others => busy :: statesFrom threshold (sample threshold busy reading) others

/-- Whether a node is busy from its start on. An empty period is refused, and then no reading is
ever taken. -/
def states (threshold : Double) (period : Duration) (readings : List (Option String)) :
    List Bool :=
  if period.nanoseconds = 0 then List.replicate (readings.length + 1) false
  else statesFrom threshold false readings

/-- A reading is due between two moments, not at the first and up to the second. -/
def isDue (earlier later : Instant) : Bool :=
  earlier.nanoseconds / samplePeriod.nanoseconds < later.nanoseconds / samplePeriod.nanoseconds

end ServiceDiscovery.Load
