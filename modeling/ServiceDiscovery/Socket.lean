/-
This file holds where datagrams go and come from, and why a socket cannot be had. An address
on a link belongs to an interface; the number of the interface is written only if there is one.
-/

import ServiceDiscovery.Wire.Frame

namespace ServiceDiscovery

/-! ### Endpoints -/

/-- An address on the link behind an interface, and a port. -/
structure Endpoint where
  address : String
  scope : UInt32
  port : UInt16
  deriving DecidableEq, Repr

namespace Endpoint

/-- Where questions go: every node that listens on the port of the link. -/
def everyNode (port : UInt16) (interfaceIndex : UInt32) : Endpoint :=
  ⟨Wire.multicastAddress, interfaceIndex, port⟩

def scopeText (scope : UInt32) : String :=
  if scope = 0 then "" else "%" ++ toString scope.toNat

def display (endpoint : Endpoint) : String :=
  "[" ++ endpoint.address ++ scopeText endpoint.scope ++ "]:" ++ toString endpoint.port.toNat

end Endpoint

/-! ### Faults -/

/-- Why there is no socket: the step at which opening it failed, and the reason. -/
structure SocketFault where
  step : String
  reason : String
  deriving DecidableEq, Repr

def SocketFault.message (fault : SocketFault) : String :=
  fault.step ++ ": " ++ fault.reason

/-- Why a name stands for no interface. -/
inductive InterfaceError where
  | zeroByte
  | unknown (name : String)
  deriving DecidableEq, Repr

def InterfaceError.message : InterfaceError → String
  | .zeroByte => "interface name contains null byte"
  | .unknown name => "interface '" ++ name ++ "' not found"

/-- The number of the interface with the given name, among those that a node has. -/
def interfaceIndex (interfaces : List (String × UInt32)) (name : String) :
    Except InterfaceError UInt32 :=
  if name.toList.contains '\x00' then .error .zeroByte
  else
    match interfaces.find? fun known => known.1 == name with
    | some known => .ok known.2
    | none => .error (.unknown name)

end ServiceDiscovery
