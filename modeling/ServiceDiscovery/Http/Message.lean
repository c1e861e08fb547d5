/-
This file holds the parts of HTTP that the interface of a node needs: a request with its method,
target, headers and body, and an answer with its status and the headers that a caller may see.
-/

import ServiceDiscovery.Json.Decoding

namespace ServiceDiscovery.Http

/-- A request as it arrives. Header names are in lower case. -/
structure Call where
  method : String
  target : String
  headers : List (String × String)
  body : Bytes

namespace Call

/-- The first value of a header. -/
def header? (call : Call) (name : String) : Option String :=
  (call.headers.find? fun header => header.1 == name).map Prod.snd

/-- The target without a query and without a fragment. -/
def path (call : Call) : String :=
  String.ofList (call.target.toList.takeWhile fun char => char != '?' && char != '#')

end Call

/-- The body of an answer. -/
inductive Body where
  | empty
  | text (text : String)
  | json (value : Json)

/-- An answer. Every one may be read from any origin; only an answer to the question what is
allowed across origins also names methods and headers. -/
structure Answer where
  status : Nat
  body : Body
  allow : Option String
  acrossOrigins : Bool

namespace Answer

def ofStatus (status : Nat) : Answer :=
  ⟨status, .empty, none, false⟩

def ok (value : Json) : Answer :=
  ⟨200, .json value, none, false⟩

def refusal (status : Nat) (text : String) : Answer :=
  ⟨status, .text text, none, false⟩

/-- The same answer without its body. -/
def withoutBody (answer : Answer) : Answer :=
  { answer with body := .empty }

/-- The origins that may read an answer. -/
def allowOrigin : String := "*"

/-- The methods or headers that are allowed across origins, where an answer names them. -/
def allowAcross (answer : Answer) : Option String :=
  if answer.acrossOrigins then some "*" else none

end Answer

end ServiceDiscovery.Http
