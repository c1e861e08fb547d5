/-
This file holds what can go wrong between a request and its instance, and the wording of it.
-/

import ServiceDiscovery.Identity
import ServiceDiscovery.Time

namespace ServiceDiscovery

/-- Why a transport has no replies to give. -/
inductive TransportError where
  | timeout (span : Duration)
  | send (reason : String)
  deriving DecidableEq, Repr

def TransportError.message : TransportError → String
  | .timeout span => "no replies within " ++ span.display
  | .send reason => "send failed: " ++ reason

/-- Why there is no instance, or no registration. -/
inductive DiscoveryError where
  | notFound (request : Request) (cause : Option DiscoveryError)
  | timedOut (milliseconds : UInt64)
  | transport (error : TransportError)
  | conflict (identity : Identity)
  deriving Repr

namespace DiscoveryError

/-- A transport that gave up waiting has timed out; anything else is its own failure. -/
def ofTransport : TransportError → DiscoveryError
  | .timeout span => .timedOut span.countedMilliseconds
  | other => .transport other

def message : DiscoveryError → String
  | .notFound request none => "no instance of " ++ request.display ++ " found"
  | .notFound request (some cause) =>
    "no instance of " ++ request.display ++ " found (" ++ message cause ++ ")"
  | .timedOut milliseconds => "discovery timed out after " ++ toString milliseconds.toNat ++ " ms"
  | .transport error => "transport failure: " ++ error.message
  | .conflict identity =>
    "another local service is already registered as " ++ identity.display

end DiscoveryError

end ServiceDiscovery
