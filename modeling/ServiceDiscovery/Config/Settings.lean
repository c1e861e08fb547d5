/-
This file holds the settings of a node, their defaults, and how the environment overrides them.
A variable that does not have the form of its setting is ignored.
-/

import ServiceDiscovery.Hosting
import ServiceDiscovery.Number.Reading
import ServiceDiscovery.Time
import ServiceDiscovery.Wire.Frame

namespace ServiceDiscovery

/-- The settings of the node itself. An empty interface is given when the node is started. -/
structure NodeSettings where
  interface : String
  discoveryPort : UInt16
  apiPort : UInt16
  busyThreshold : Double
  deriving DecidableEq, Repr

/-- The settings of discovery: how long a cached instance is kept, how many replies end a round,
how long a round can take, and how often everything is announced. -/
structure DiscoverySettings where
  lifetimeSeconds : UInt64
  wantedReplies : UInt64
  timeoutMilliseconds : UInt64
  announceSeconds : UInt64
  deriving DecidableEq, Repr

/-- All settings. -/
structure Settings where
  services : List HostedService
  node : NodeSettings
  discovery : DiscoverySettings
  deriving DecidableEq, Repr

/-! ### Defaults -/

def NodeSettings.standard : NodeSettings :=
  ⟨"", UInt16.ofNat Wire.defaultPort, 9180, Decimal.nearest ⟨false, 8, -1⟩⟩

namespace DiscoverySettings

def standard : DiscoverySettings :=
  ⟨60, 10, 2000, 60⟩

def lifetime (settings : DiscoverySettings) : Duration :=
  Duration.ofSeconds settings.lifetimeSeconds.toNat

def timeout (settings : DiscoverySettings) : Duration :=
  Duration.ofMilliseconds settings.timeoutMilliseconds.toNat

def announcePeriod (settings : DiscoverySettings) : Duration :=
  Duration.ofSeconds settings.announceSeconds.toNat

end DiscoverySettings

def Settings.standard : Settings :=
  ⟨[], NodeSettings.standard, DiscoverySettings.standard⟩

/-! ### The environment -/

/-- The variables that are set. -/
abbrev Environment := String → Option String

namespace Environment

/-- A variable in the form of a setting, or the setting itself. -/
def override {Setting : Type} (environment : Environment) (name : String)
    (read : List Char → Option Setting) (setting : Setting) : Setting :=
  match (environment name).bind fun text => read text.toList with
  | some value => value
  | none => setting

def port? (text : List Char) : Option UInt16 :=
  (Text.bounded? UInt16.size text).map UInt16.ofNat

def count? (text : List Char) : Option UInt64 :=
  (Text.bounded? UInt64.size text).map UInt64.ofNat

def overrideNode (environment : Environment) (settings : NodeSettings) : NodeSettings :=
  ⟨environment.override "CAIRN_NODE__INTERFACE" (some ∘ String.ofList) settings.interface,
    environment.override "CAIRN_NODE__DISCOVERY_PORT" port? settings.discoveryPort,
    environment.override "CAIRN_NODE__API_PORT" port? settings.apiPort,
    environment.override "CAIRN_NODE__BUSY_LOAD_THRESHOLD" Double.parse? settings.busyThreshold⟩

def overrideDiscovery (environment : Environment) (settings : DiscoverySettings) :
    DiscoverySettings :=
  ⟨environment.override "CAIRN_DISCOVERY__TTL_SECS" count? settings.lifetimeSeconds,
    environment.override "CAIRN_DISCOVERY__WAIT_FOR_RESULTS" count? settings.wantedReplies,
    environment.override "CAIRN_DISCOVERY__TIMEOUT_MS" count? settings.timeoutMilliseconds,
    environment.override "CAIRN_DISCOVERY__ANNOUNCE_INTERVAL_SECS" count?
      settings.announceSeconds⟩

/-- The settings with what the environment says about them. -/
def overrideAll (environment : Environment) (settings : Settings) : Settings :=
  ⟨settings.services, environment.overrideNode settings.node,
    environment.overrideDiscovery settings.discovery⟩

end Environment

end ServiceDiscovery
