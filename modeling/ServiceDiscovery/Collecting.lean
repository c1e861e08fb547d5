/-
This file holds how a node sends a question and collects what comes back. A question goes out
on a socket of its own, so whatever arrives there belongs to its round. Collecting ends with
the last datagram that is wanted, with the first failure to receive, or at the deadline; what
arrives exactly then still counts. A deadline past the end of the clock is none, and such a
round may never end.
-/

import ServiceDiscovery.Round
import ServiceDiscovery.Socket

namespace ServiceDiscovery.Collecting

/-! ### Sending -/

/-- What keeps a node from sending a question. -/
structure Faults where
  socket : Option SocketFault
  send : Option String
  deriving DecidableEq, Repr

/-- Nothing keeps a node from sending. -/
def Faults.none : Faults := ⟨.none, .none⟩

/-- The datagram that goes out with a question, or the reason why none does. -/
def dispatch (faults : Faults) (envelope : Envelope) : Except TransportError Bytes :=
  match Wire.encode envelope, faults.socket, faults.send with
  | .error error, _, _ => .error (.send error.message)
  | .ok _, some fault, _ => .error (.send fault.message)
  | .ok _, .none, some reason => .error (.send reason)
  | .ok datagram, .none, .none => .ok datagram

/-! ### Receiving -/

/-- What a socket brings: the bytes of a datagram, or a failure to receive. -/
inductive Event where
  | datagram (bytes : Bytes)
  | failure
  deriving DecidableEq, Repr

/-- An event and its moment. -/
structure Arrival where
  moment : Instant
  event : Event
  deriving DecidableEq, Repr

/-- The first arrival is not after the second. -/
def Arrival.notAfter (first second : Arrival) : Bool :=
  first.moment.nanoseconds ≤ second.moment.nanoseconds

/-- Arrivals in the order of their moments; those of one moment keep their order. -/
def inOrder (arrivals : List Arrival) : List Arrival :=
  arrivals.mergeSort Arrival.notAfter

theorem notAfter_trans (first second third : Arrival) (early : first.notAfter second = true)
    (late : second.notAfter third = true) : first.notAfter third = true :=
  decide_eq_true (Nat.le_trans (of_decide_eq_true early) (of_decide_eq_true late))

theorem notAfter_total (first second : Arrival) :
    (first.notAfter second || second.notAfter first) = true := by
  rw [Bool.or_eq_true, Arrival.notAfter, Arrival.notAfter, decide_eq_true_iff, decide_eq_true_iff]
  exact Nat.le_total _ _

theorem pairwise_inOrder (arrivals : List Arrival) :
    (inOrder arrivals).Pairwise fun first second => first.notAfter second = true :=
  List.pairwise_mergeSort notAfter_trans notAfter_total arrivals

/-- What a socket brings, one event after the other and none before an earlier one. There may be
no end to it; but once there is nothing more, nothing follows. -/
structure Schedule where
  event : Nat → Option Arrival
  ends : ∀ index, event index = none → event (index + 1) = none
  ordered : ∀ index first second, event index = some first →
    event (index + 1) = some second → first.notAfter second = true

namespace Schedule

/-- Arrivals that are in order already, and nothing after them. -/
def ofSorted (arrivals : List Arrival)
    (sorted : arrivals.Pairwise fun first second => first.notAfter second = true) : Schedule where
  event index := arrivals[index]?
  ends index none := List.getElem?_eq_none (Nat.le_succ_of_le (List.getElem?_eq_none_iff.mp none))
  ordered index first second found next := by
    obtain ⟨bound, rfl⟩ := List.getElem?_eq_some_iff.mp found
    obtain ⟨nextBound, rfl⟩ := List.getElem?_eq_some_iff.mp next
    exact List.pairwise_iff_getElem.mp sorted _ _ bound nextBound (Nat.lt_succ_self index)

/-- Some arrivals, and nothing after them. -/
def ofArrivals (arrivals : List Arrival) : Schedule :=
  ofSorted (inOrder arrivals) (pairwise_inOrder arrivals)

/-- What comes after the first event. -/
def rest (schedule : Schedule) : Schedule where
  event index := schedule.event (index + 1)
  ends index := schedule.ends (index + 1)
  ordered index := schedule.ordered (index + 1)

end Schedule

/-! ### Collecting -/

/-- As much of a datagram as is received. -/
def received (bytes : Bytes) : Bytes :=
  bytes.take Wire.maxDatagram

/-- The moment is past the deadline, if there is one. -/
def isLate (deadline : Option Instant) (moment : Instant) : Bool :=
  match deadline with
  | some deadline => deadline.before moment
  | none => false

/-- What was collected, and the moment at which collecting was over, if it ever is. -/
structure Harvest where
  datagrams : List Bytes
  ending : Option Instant
  deriving DecidableEq, Repr

/-- The harvest with one more datagram in front. -/
def Harvest.after (bytes : Bytes) (harvest : Harvest) : Harvest :=
  { harvest with datagrams := bytes :: harvest.datagrams }

/-- Collects what a schedule brings, from a moment on. -/
def collect (deadline : Option Instant) : Instant → Nat → Schedule → Harvest
  | now, 0, _ => ⟨[], some now⟩
  | _, wanted + 1, schedule =>
    match schedule.event 0 with
    | none => ⟨[], deadline⟩
    | some arrival =>
      if isLate deadline arrival.moment then ⟨[], deadline⟩
      else
        match arrival.event with
        | .failure => ⟨[], some arrival.moment⟩
        | .datagram bytes =>
          (collect deadline arrival.moment wanted schedule.rest).after (received bytes)

/-- Collects from a moment on for a span of time. -/
def collectFor (start : Instant) (wanted : Nat) (span : Duration) (schedule : Schedule) :
    Harvest :=
  collect (start.add? span) start wanted schedule

/-- Collects some arrivals from a moment on for a span of time. -/
def collectFrom (start : Instant) (wanted : Nat) (span : Duration) (arrivals : List Arrival) :
    Harvest :=
  collectFor start wanted span (Schedule.ofArrivals arrivals)

end ServiceDiscovery.Collecting
