/-
This file holds stations on one link. A question reaches every station that hears the asker at
once, and an answer arrives after the delay of the station that gives it; answers of one moment
arrive in the order of the stations, and stray datagrams after them. Several queries can be
started at one moment; each waits for its own round, and the rounds end one after the other.
-/

import ServiceDiscovery.Station

namespace ServiceDiscovery

/-- Stations on a link, with the reading of the load that all of them see. -/
structure Network where
  stations : List Station
  now : Instant
  reading : Option String
  strays : List (Duration × Collecting.Event)

/-- A datagram that a station sent. -/
structure Transmission where
  station : Nat
  kind : Kind
  deriving DecidableEq, Repr

/-- Transmissions by station, the answers of each in front of its questions. -/
def Transmission.sorted (transmissions : List Transmission) : List Transmission :=
  transmissions.mergeSort fun first second =>
    first.station < second.station || (first.station == second.station &&
      (first.kind == .reply || second.kind == .request))

namespace Network

/-- The network with a station changed. -/
def change (network : Network) (index : Nat) (act : Station → Station) : Network :=
  { network with stations := network.stations.modify index act }

/-- The network at a later moment. -/
def advanceTo (network : Network) (target : Instant) : Network :=
  { network with
    now := target
    stations := network.stations.map fun station => station.advanceTo target network.reading }

def advance (network : Network) (span : Duration) : Network :=
  network.advanceTo (network.now.later span)

/-! ### One round -/

/-- An answer on its way. -/
structure Letter where
  station : Nat
  delay : Duration
  datagram : Bytes
  deriving DecidableEq, Repr

/-- The answer of one station to a question. -/
def letter? (asker : Connection) (question : Bytes) (station : Station) (index : Nat) :
    Option Letter :=
  if asker.hears station.connection then
    (station.reply? question).map fun datagram => ⟨index, station.connection.delay, datagram⟩
  else none

/-- The answers of all stations to a question, in the order of the stations. -/
def letters (network : Network) (asker : Connection) (question : Bytes) : List Letter :=
  network.stations.zipIdx.filterMap fun place => letter? asker question place.1 place.2

/-- What arrives at an asker after its question. -/
def arrivals (network : Network) (asker : Connection) (letters : List Letter) :
    List Collecting.Arrival :=
  letters.map (fun letter => ⟨network.now.later letter.delay, .datagram letter.datagram⟩) ++
    if asker.isCutOff then []
    else network.strays.map fun stray => ⟨network.now.later stray.1, stray.2⟩

/-- A round in progress: what waits for it, and how it will end. -/
structure Flight where
  station : Nat
  waiting : Resolver.Waiting
  outcome : Round.Outcome
  ending : Option Instant

/-- A query that was started. -/
inductive Attempt where
  | settled (result : Except DiscoveryError Instance)
  | flying (flight : Flight)

/-- Sends the question of a station, if it can be sent. -/
def launch (network : Network) (index : Nat) (station : Station) (envelope : Envelope)
    (waiting : Resolver.Waiting) : Flight × List Transmission :=
  match Collecting.dispatch station.connection.faults envelope with
  | .error error => (⟨index, waiting, .error error, some network.now⟩, [])
  | .ok datagram =>
    match network.letters station.connection datagram with
    | letters =>
      match Collecting.collectFrom network.now station.patience.wanted station.patience.timeout
          (network.arrivals station.connection letters) with
      | ⟨datagrams, ending⟩ =>
        (⟨index, waiting, .ok datagrams, ending⟩,
          ⟨index, .request⟩ :: letters.map fun letter => ⟨letter.station, .reply⟩)

/-- What the start of queries leaves behind. -/
structure Started where
  network : Network
  attempts : List Attempt
  sent : List Transmission

/-- Starts a query at a station. -/
def startAt (network : Network) (index : Nat) (query : Query) (station : Station) : Started :=
  match station.node.resolver.start query station.isBusy network.now with
  | (resolver, .settled result) =>
    ⟨network.change index (·.withResolver resolver), [.settled result], []⟩
  | (resolver, .asking envelope waiting) =>
    match network.launch index station envelope waiting with
    | (flight, sent) =>
      ⟨network.change index (·.withResolver resolver), [.flying flight], sent⟩

/-- A query of a station that is not there has no answer. -/
def start (network : Network) (index : Nat) (query : Query) : Started :=
  match network.stations[index]? with
  | some station => network.startAt index query station
  | none => ⟨network, [.settled (Resolver.notFound query none)], []⟩

/-- Starts queries in order, all at the same moment. -/
def startAll (network : Network) : List (Nat × Query) → Started
  | [] => ⟨network, [], []⟩
  | (index, query) :: others =>
    match network.start index query with
    | ⟨network, attempts, sent⟩ =>
      match startAll network others with
      | ⟨network, moreAttempts, moreSent⟩ =>
        ⟨network, attempts ++ moreAttempts, sent ++ moreSent⟩

/-! ### The ends of rounds -/

/-- A round that ends: the position of its query, its flight and its end. -/
structure Landing where
  position : Nat
  flight : Flight
  ending : Instant

/-- The landing of an attempt, if its round ends by a deadline. -/
def landing? (deadline : Instant) (attempt : Attempt) (position : Nat) : Option Landing :=
  match attempt with
  | .settled _ => none
  | .flying flight =>
    flight.ending.bind fun ending =>
      if deadline.before ending then none else some ⟨position, flight, ending⟩

/-- The landings in the order of their ends; those of one moment in the order of their queries. -/
def landings (deadline : Instant) (attempts : List Attempt) : List Landing :=
  (attempts.zipIdx.filterMap fun place => landing? deadline place.1 place.2).mergeSort
    fun first second => first.ending.nanoseconds ≤ second.ending.nanoseconds

/-- The result of a query by its position. -/
abbrev Result := Nat × Except DiscoveryError Instance

/-- Ends a round. -/
def land (network : Network) (landing : Landing) : Network × List Result :=
  match network.stations[landing.flight.station]? with
  | none => (network, [])
  | some station =>
    match station.node.resolver.finish landing.flight.waiting landing.flight.outcome
        network.now with
    | (resolver, result) =>
      (network.change landing.flight.station (·.withResolver resolver),
        [(landing.position, result)])

/-- Ends rounds in order, each at its moment. -/
def landAll (network : Network) : List Landing → Network × List Result
  | [] => (network, [])
  | landing :: others =>
    match (network.advanceTo landing.ending).land landing with
    | (network, results) =>
      match landAll network others with
      | (network, moreResults) => (network, results ++ moreResults)

/-- The result of an attempt. One whose round has not ended has none. -/
def resultOf (results : List Result) (attempt : Attempt) (position : Nat) :
    Option (Except DiscoveryError Instance) :=
  match attempt with
  | .settled result => some result
  | .flying _ => (results.find? fun entry => entry.1 == position).map Prod.snd

/-- What several queries leave behind. -/
structure Resolution where
  network : Network
  results : List (Option (Except DiscoveryError Instance))
  sent : List Transmission

/-- Resolves queries that are started at one moment, and waits for their rounds, but not longer
than a limit. -/
def resolveAll (network : Network) (limit : Duration) (queries : List (Nat × Query)) :
    Resolution :=
  match network.startAll queries with
  | ⟨started, attempts, sent⟩ =>
    match started.landAll (landings (network.now.later limit) attempts) with
    | (landed, results) =>
      match attempts.zipIdx.map fun place => resultOf results place.1 place.2 with
      | answers =>
        ⟨if answers.all Option.isSome then landed else landed.advanceTo (network.now.later limit),
          answers, sent⟩

end Network

end ServiceDiscovery
