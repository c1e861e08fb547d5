/-
This file takes settings out of TOML. Everything can be left out, unknown keys are ignored, and
a setting of the wrong kind or out of its range is refused. A group of settings is a table, or
an array with the settings in order.
-/

import ServiceDiscovery.Config.Settings
import ServiceDiscovery.Toml.Reader

namespace ServiceDiscovery

namespace Toml.Value

/-- The fields of a group. An array has them in order; a date or time is a group without any
known field. -/
def fields? (keys : List String) : Value → Option Entries
  | .table _ entries => some entries
  | .array items => some (keys.zip items)
  | .rows tables => some (keys.zip (tables.map (.table .header)))
  | .moment => some []
  | _ => none

/-- The elements of a list. -/
def elements? : Value → Option (List Value)
  | .array items => some items
  | .rows tables => some (tables.map (.table .header))
  | _ => none

def text? : Value → Option String
  | .text value => some value
  | _ => none

/-- A whole number from zero on and below a limit. -/
def natural? (limit : Nat) : Value → Option Nat
  | .integer value => if 0 ≤ value ∧ value < limit then some value.toNat else none
  | _ => none

/-- A number in double precision; a whole number is rounded. -/
def double? : Value → Option Double
  | .real value => some value
  | .integer value => some (Decimal.nearest ⟨decide (value < 0), value.natAbs, 0⟩)
  | _ => none

def port? (value : Value) : Option UInt16 :=
  (value.natural? UInt16.size).map UInt16.ofNat

def count? (value : Value) : Option UInt64 :=
  (value.natural? UInt64.size).map UInt64.ofNat

end Toml.Value

/-- A field that has to be there. -/
def Toml.Entries.required? {Field : Type} (entries : Toml.Entries) (key : String)
    (read : Toml.Value → Option Field) : Option Field :=
  (entries.get? key).bind read

/-- A field that has a default. -/
def Toml.Entries.optional? {Field : Type} (entries : Toml.Entries) (key : String)
    (read : Toml.Value → Option Field) (default : Field) : Option Field :=
  match entries.get? key with
  | some value => read value
  | none => some default

namespace HostedService

def ofToml? (value : Toml.Value) : Option HostedService := do
  let fields ← value.fields? ["name", "version"]
  some ⟨← fields.required? "name" Toml.Value.text?, ← fields.required? "version" Toml.Value.text?⟩

def listOfToml? (value : Toml.Value) : Option (List HostedService) := do
  (← value.elements?).mapM ofToml?

end HostedService

def NodeSettings.ofToml? (value : Toml.Value) : Option NodeSettings := do
  let fields ←
    value.fields? ["interface", "discovery_port", "api_port", "busy_load_threshold"]
  some ⟨← fields.optional? "interface" Toml.Value.text? standard.interface,
    ← fields.optional? "discovery_port" Toml.Value.port? standard.discoveryPort,
    ← fields.optional? "api_port" Toml.Value.port? standard.apiPort,
    ← fields.optional? "busy_load_threshold" Toml.Value.double? standard.busyThreshold⟩

def DiscoverySettings.ofToml? (value : Toml.Value) : Option DiscoverySettings := do
  let fields ←
    value.fields? ["ttl_secs", "wait_for_results", "timeout_ms", "announce_interval_secs"]
  some ⟨← fields.optional? "ttl_secs" Toml.Value.count? standard.lifetimeSeconds,
    ← fields.optional? "wait_for_results" Toml.Value.count? standard.wantedReplies,
    ← fields.optional? "timeout_ms" Toml.Value.count? standard.timeoutMilliseconds,
    ← fields.optional? "announce_interval_secs" Toml.Value.count? standard.announceSeconds⟩

namespace Settings

def ofEntries? (entries : Toml.Entries) : Option Settings := do
  some ⟨← entries.optional? "services" HostedService.listOfToml? standard.services,
    ← entries.optional? "node" NodeSettings.ofToml? standard.node,
    ← entries.optional? "discovery" DiscoverySettings.ofToml? standard.discovery⟩

/-- The settings that a text states. -/
def ofText? (text : String) : Option Settings := do
  ofEntries? (← Toml.read text.toList)

/-- The text that states all settings as they are by default. -/
def standardText : String :=
  "services = []\n\n[node]\ninterface = \"\"\ndiscovery_port = 9100\napi_port = 9180\n" ++
    "busy_load_threshold = 0.8\n\n[discovery]\nttl_secs = 60\nwait_for_results = 10\n" ++
    "timeout_ms = 2000\nannounce_interval_secs = 60\n"

end Settings

end ServiceDiscovery
