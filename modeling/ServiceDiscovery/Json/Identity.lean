/-
This file gives versions, constraints, node ids, identities and requests their JSON form.
Everything but the two records is a string literal with the text form.
-/

import ServiceDiscovery.Bytes32
import ServiceDiscovery.Identity
import ServiceDiscovery.Json.Decoding

namespace ServiceDiscovery

def Version.toJson (version : Version) : Json :=
  Json.text version.display

def Version.ofJson : Json → Except Json.Fault Version :=
  Json.asParsed Version.parse

def Constraint.toJson (constraint : Constraint) : Json :=
  Json.text constraint.display

def Constraint.ofJson : Json → Except Json.Fault Constraint :=
  Json.asParsed Constraint.parse

def Bytes32.toJson (value : Bytes32) : Json :=
  Json.text value.display

def Bytes32.ofJson : Json → Except Json.Fault Bytes32 :=
  Json.asParsed Bytes32.parse

/-! ### Identities -/

namespace Identity

def toJson (identity : Identity) : Json :=
  Json.ofFields [("name", Json.text identity.name), ("version", identity.version.toJson)]

/-- The fields of an identity that were read so far. -/
structure Draft where
  name : Option String := none
  version : Option Version := none

def member (draft : Draft) (key : String) (value : Json) : Except Json.Fault Draft :=
  match key with
  | "name" => do .ok { draft with name := ← Json.fill draft.name Json.asText value }
  | "version" => do .ok { draft with version := ← Json.fill draft.version Version.ofJson value }
  | _ => Json.skipping draft value

def finish (draft : Draft) : Except Json.Fault Identity := do
  .ok ⟨← Json.required draft.name, ← Json.required draft.version⟩

def row (items : List Json) : Except Json.Fault Identity := do
  let (name, items) ← Json.firstItem Json.asText items
  let (version, items) ← Json.firstItem Version.ofJson items
  Json.noMoreItems items
  .ok ⟨name, version⟩

def ofJson : Json → Except Json.Fault Identity :=
  Json.asRecord {} member finish row

end Identity

/-! ### Requests -/

namespace Request

def toJson (request : Request) : Json :=
  Json.ofFields [("name", Json.text request.name), ("constraint", request.constraint.toJson)]

/-- The fields of a request that were read so far. -/
structure Draft where
  name : Option String := none
  constraint : Option Constraint := none

def member (draft : Draft) (key : String) (value : Json) : Except Json.Fault Draft :=
  match key with
  | "name" => do .ok { draft with name := ← Json.fill draft.name Json.asText value }
  | "constraint" => do
    .ok { draft with constraint := ← Json.fill draft.constraint Constraint.ofJson value }
  | _ => Json.skipping draft value

def finish (draft : Draft) : Except Json.Fault Request := do
  .ok ⟨← Json.required draft.name, ← Json.required draft.constraint⟩

def row (items : List Json) : Except Json.Fault Request := do
  let (name, items) ← Json.firstItem Json.asText items
  let (constraint, items) ← Json.firstItem Constraint.ofJson items
  Json.noMoreItems items
  .ok ⟨name, constraint⟩

def ofJson : Json → Except Json.Fault Request :=
  Json.asRecord {} member finish row

end Request

end ServiceDiscovery
