/-
This file holds the bodies that the interface of a node accepts, and how a body is taken out of
a call: its content type has to announce JSON, it has to be JSON, and it has to have the right
shape, in this order.
-/

import ServiceDiscovery.Http.MediaType
import ServiceDiscovery.Http.Message

namespace ServiceDiscovery.Http

/-- The largest body that is taken. -/
def maxBody : Nat := 2097152

/-- The body of a call in the given form, or the status of the refusal. -/
def Call.form {Form : Type} (call : Call) (read : Json → Except Json.Fault Form) :
    Except Nat Form :=
  if ((call.header? "content-type").map MediaType.announcesJson).getD false then
    if maxBody < call.body.length then .error 413
    else
      match (Json.ofBytes call.body).decode read with
      | .ok form => .ok form
      | .error .malformed => .error 400
      | .error .mismatched => .error 422
  else .error 415

/-! ### Resolving -/

/-- What a caller wants to have resolved. -/
structure ResolveForm where
  name : String
  version : String
  exact : Bool
  localOnly : Bool
  deriving DecidableEq, Repr

namespace ResolveForm

/-- The version that is meant when none is given. -/
def anyVersion : String := "*"

/-- The fields that were read so far. -/
structure Draft where
  name : Option String := none
  version : Option String := none
  exact : Option Bool := none
  localOnly : Option Bool := none

def member (draft : Draft) (key : String) (value : Json) : Except Json.Fault Draft :=
  match key with
  | "name" => do .ok { draft with name := ← Json.fill draft.name Json.asText value }
  | "version" => do .ok { draft with version := ← Json.fill draft.version Json.asText value }
  | "exact" => do .ok { draft with exact := ← Json.fill draft.exact Json.asFlag value }
  | "local_only" => do .ok { draft with localOnly := ← Json.fill draft.localOnly Json.asFlag value }
  | _ => Json.skipping draft value

def finish (draft : Draft) : Except Json.Fault ResolveForm := do
  .ok ⟨← Json.required draft.name, draft.version.getD anyVersion, draft.exact.getD false,
    draft.localOnly.getD false⟩

def row (items : List Json) : Except Json.Fault ResolveForm := do
  let (name, items) ← Json.firstItem Json.asText items
  let (version, items) ← Json.firstItemOr anyVersion Json.asText items
  let (exact, items) ← Json.firstItemOr false Json.asFlag items
  let (localOnly, items) ← Json.firstItemOr false Json.asFlag items
  Json.noMoreItems items
  .ok ⟨name, version, exact, localOnly⟩

def ofJson : Json → Except Json.Fault ResolveForm :=
  Json.asRecord {} member finish row

end ResolveForm

/-! ### Removing -/

/-- The cached instance that a caller wants to have removed. -/
structure RemoveForm where
  name : String
  version : String
  agent : String
  node : String
  deriving DecidableEq, Repr

namespace RemoveForm

/-- The fields that were read so far. -/
structure Draft where
  name : Option String := none
  version : Option String := none
  agent : Option String := none
  node : Option String := none

def member (draft : Draft) (key : String) (value : Json) : Except Json.Fault Draft :=
  match key with
  | "name" => do .ok { draft with name := ← Json.fill draft.name Json.asText value }
  | "version" => do .ok { draft with version := ← Json.fill draft.version Json.asText value }
  | "agent_id" => do .ok { draft with agent := ← Json.fill draft.agent Json.asText value }
  | "node_id" => do .ok { draft with node := ← Json.fill draft.node Json.asText value }
  | _ => Json.skipping draft value

def finish (draft : Draft) : Except Json.Fault RemoveForm := do
  .ok ⟨← Json.required draft.name, ← Json.required draft.version, ← Json.required draft.agent,
    ← Json.required draft.node⟩

def row (items : List Json) : Except Json.Fault RemoveForm := do
  let (name, items) ← Json.firstItem Json.asText items
  let (version, items) ← Json.firstItem Json.asText items
  let (agent, items) ← Json.firstItem Json.asText items
  let (node, items) ← Json.firstItem Json.asText items
  Json.noMoreItems items
  .ok ⟨name, version, agent, node⟩

def ofJson : Json → Except Json.Fault RemoveForm :=
  Json.asRecord {} member finish row

end RemoveForm

end ServiceDiscovery.Http
