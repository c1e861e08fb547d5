/-
This file holds a station: a node on a link, with its responder, its load, and the state of its
connection. A station that is cut off still sends, but nobody hears it and it hears nobody.
-/

import ServiceDiscovery.Load
import ServiceDiscovery.Node
import ServiceDiscovery.Responder

namespace ServiceDiscovery

/-- The connection of a station to the link. -/
structure Connection where
  port : UInt16
  delay : Duration
  isCutOff : Bool
  faults : Collecting.Faults
  canReply : Bool
  deriving DecidableEq, Repr

/-- The two connections hear each other. -/
def Connection.hears (first second : Connection) : Bool :=
  !first.isCutOff && !second.isCutOff && first.port == second.port

/-- How a station asks the network: how many replies end a round, and how long a round can take. -/
structure Patience where
  wanted : Nat
  timeout : Duration
  deriving DecidableEq, Repr

/-- A node on a link. -/
structure Station where
  node : Node
  responder : Responder.State
  connection : Connection
  patience : Patience
  threshold : Double
  isBusy : Bool

namespace Station

/-- The station after a reading of its load. -/
def sample (station : Station) (reading : Option String) : Station :=
  { station with isBusy := Load.sample station.threshold station.isBusy reading }

/-- A station at the clock's zero, with its first reading taken. -/
def start (node : Node) (connection : Connection) (patience : Patience) (threshold : Double)
    (reading : Option String) : Station :=
  sample ⟨node, .running, connection, patience, threshold, false⟩ reading

/-- The station at a later moment. All readings that were due by then have the same text. -/
def advanceTo (station : Station) (target : Instant) (reading : Option String) : Station :=
  if Load.isDue station.node.now target then
    sample { station with node := station.node.advanceTo target } reading
  else { station with node := station.node.advanceTo target }

def withResolver (station : Station) (resolver : Resolver) : Station :=
  { station with node := { station.node with resolver := resolver } }

/-- The datagram with which the station answers one, if its responder runs and can send. -/
def reply? (station : Station) (datagram : Bytes) : Option Bytes :=
  if station.responder.isRunning && station.connection.canReply then
    Responder.reply? station.node.registry station.node.id datagram
  else none

def shutDown (station : Station) : Station :=
  { station with
    responder :=
      (Responder.step station.node.registry station.node.id true station.responder .shutdown).1 }

end Station

end ServiceDiscovery
