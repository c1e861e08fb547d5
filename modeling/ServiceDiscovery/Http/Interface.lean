/-
This file holds the HTTP interface of a node: what its services and its cache are, resolving on
behalf of a caller, and dropping cached instances. Only a call to resolve can reach the network,
and only the three calls that post can change anything, which is the cache.
-/

import ServiceDiscovery.Http.Forms
import ServiceDiscovery.Node

namespace ServiceDiscovery.Http

/-- What the interface knows besides the node: for whom it resolves, how long the node has been
up, and whether it is busy. -/
structure Context where
  agent : AgentId
  uptime : Duration
  busy : Bool

/-! ### Listings -/

/-- Hours, minutes and seconds. -/
def uptimeText (uptime : Duration) : String :=
  String.ofList (Text.decimal (uptime.seconds / 3600) ++
    ':' :: Text.paddedDecimal 2 (uptime.seconds / 60 % 60) ++
    ':' :: Text.paddedDecimal 2 (uptime.seconds % 60))

/-- The services of a registry in the order of their identities. -/
def localServices (registry : Registry) : List Instance :=
  Instance.sorted registry.snapshot

def localServiceRow (occurrence : Instance) : Json :=
  Json.ofFields [("name", Json.text occurrence.identity.name),
    ("version", Json.text occurrence.identity.version.display),
    ("agent_id", Json.text occurrence.agent)]

def statusReport (context : Context) (node : Node) : Json :=
  Json.ofFields [("node_id", Json.text node.id.display), ("busy", .bool context.busy),
    ("uptime", Json.text (uptimeText context.uptime)),
    ("local_services", .array ((localServices node.registry).map localServiceRow)),
    ("remote_instances", Json.natural node.cache.size)]

/-- The names of a registry, each with its versions from the newest on. -/
def servicesReport (node : Node) : Json :=
  Json.ofFields [("services", Json.ofFields (node.registry.names.map fun name =>
    (name, .array ((node.registry.versions name).map fun version => Json.text version.display))))]

/-- The order of the rows of the cache: by identity, then by rank. -/
def rowAtMost (first second : Instance) : Bool :=
  ((first.identity.compare second.identity).then
    (compare first.responseTime second.responseTime)).isLE

def cachedInstances (cache : Cache) : List Instance :=
  cache.snapshot.mergeSort rowAtMost

def cachedRow (now : Instant) (occurrence : Instance) : Json :=
  Json.ofFields [("name", Json.text occurrence.identity.name),
    ("version", Json.text occurrence.identity.version.display),
    ("agent_id", Json.text occurrence.agent),
    ("node_id", Json.text ((occurrence.node?.map Bytes32.display).getD "")),
    ("response_time_ms", Json.natural occurrence.responseTime),
    ("last_seen_secs", Json.natural (now.since occurrence.lastSeen).seconds)]

def cacheReport (node : Node) : Json :=
  Json.ofFields [("ttl_secs", Json.natural node.cache.lifetime.seconds),
    ("instances", .array ((cachedInstances node.cache).map (cachedRow node.now)))]

/-- One instance as the answer to a call to resolve. -/
def instanceReport (occurrence : Instance) : Json :=
  Json.ofFields [("name", Json.text occurrence.identity.name),
    ("version", Json.text occurrence.identity.version.display),
    ("local", .bool occurrence.isHere), ("agent_id", Json.text occurrence.agent),
    ("node_id", (occurrence.node?.map Bytes32.toJson).getD .null),
    ("response_time_ms", Json.natural occurrence.responseTime)]

/-! ### Changes -/

/-- What a call leaves behind. -/
structure Effect where
  node : Node
  sent : List Envelope
  answer : Answer

/-- The node is as it was. -/
def unchanged (node : Node) (answer : Answer) : Effect :=
  ⟨node, [], answer⟩

/-- The complaint about a version that a caller gave. -/
def invalidVersion (text : String) (error : VersionError) : Answer :=
  .refusal 400 ("invalid version " ++ Text.quoted text ++ ": " ++ error.message)

def answerOf : Except DiscoveryError Instance → Answer
  | .ok occurrence => .ok (instanceReport occurrence)
  | .error (.notFound request cause) =>
    .refusal 404 (DiscoveryError.notFound request cause).message
  | .error other => .refusal 500 other.message

/-- Resolves what a caller wants; the outcome is that of the round, should there be one. -/
def resolve (context : Context) (node : Node) (outcome : Round.Outcome) (form : ResolveForm) :
    Effect :=
  match Request.parse form.name form.version with
  | .error error => unchanged node (invalidVersion form.version error)
  | .ok request =>
    match node.resolve ⟨request, form.exact, form.localOnly, context.agent⟩ context.busy outcome with
    | ⟨node, sent, result⟩ => ⟨node, sent, answerOf result⟩

/-- The instance that a form names. Only its place matters for finding it. -/
def RemoveForm.occurrence (form : RemoveForm) (now : Instant) : Except Answer Instance :=
  match Version.parse form.version with
  | .error error => .error (invalidVersion form.version error)
  | .ok version =>
    match Bytes32.parse form.node with
    | .error _ => .error (.refusal 400 "node_id must be 32 hex-encoded bytes")
    | .ok id => .ok (Instance.remote ⟨form.name, version⟩ form.agent id 0 now)

def remove (node : Node) (form : RemoveForm) : Effect :=
  match form.occurrence node.now with
  | .error answer => unchanged node answer
  | .ok occurrence =>
    match node.removeRemote occurrence with
    | (node, removed) => unchanged node (.ok (Json.ofFields [("removed", .bool removed)]))

def clear (node : Node) : Effect :=
  unchanged node.clear (.ok (Json.ofFields [("cleared", Json.natural node.cache.size)]))

/-! ### Routes -/

/-- The places of the interface. -/
inductive Route where
  | status
  | services
  | cache
  | resolve
  | remove
  | clear
  deriving DecidableEq, Repr

namespace Route

def ofPath? (path : String) : Option Route :=
  match path with
  | "/api/status" => some .status
  | "/api/services" => some .services
  | "/api/cache" => some .cache
  | "/api/resolve" => some .resolve
  | "/api/cache/remove" => some .remove
  | "/api/cache/clear" => some .clear
  | _ => none

/-- The place is one for reading. -/
def isListing : Route → Bool
  | .status | .services | .cache => true
  | .resolve | .remove | .clear => false

/-- The methods that a place knows, as a header names them. -/
def allow (route : Route) : String :=
  if route.isListing then "GET,HEAD" else "POST"

/-- The call has a method that the place knows. -/
def knows (route : Route) (method : String) : Bool :=
  if route.isListing then method == "GET" || method == "HEAD" else method == "POST"

end Route

/-- A call with a form, or the refusal of its body. -/
def withForm {Form : Type} (node : Node) (call : Call) (read : Json → Except Json.Fault Form)
    (act : Form → Effect) : Effect :=
  match call.form read with
  | .ok form => act form
  | .error status => unchanged node (.ofStatus status)

/-- A call to a place by a method that it knows. -/
def serve (context : Context) (node : Node) (outcome : Round.Outcome) (call : Call) :
    Route → Effect
  | .status => unchanged node (.ok (statusReport context node))
  | .services => unchanged node (.ok (servicesReport node))
  | .cache => unchanged node (.ok (cacheReport node))
  | .resolve => withForm node call ResolveForm.ofJson (resolve context node outcome)
  | .remove => withForm node call RemoveForm.ofJson (remove node)
  | .clear => clear node

/-- The same effect; a call for the headers alone gets no body. -/
def Effect.forMethod (method : String) (effect : Effect) : Effect :=
  if method = "HEAD" then { effect with answer := effect.answer.withoutBody } else effect

/-- The answer to the question what is allowed. It names the methods of a place that exists. -/
def preflight (route : Option Route) : Answer :=
  ⟨200, .empty, route.map Route.allow, true⟩

/-- A call to the interface; the outcome is that of the round, should there be one. -/
def handle (context : Context) (node : Node) (outcome : Round.Outcome) (call : Call) : Effect :=
  if call.method = "OPTIONS" then unchanged node (preflight (Route.ofPath? call.path))
  else
    match Route.ofPath? call.path with
    | none => unchanged node (.ofStatus 404)
    | some route =>
      if route.knows call.method then
        (serve context node outcome call route).forMethod call.method
      else unchanged node ⟨405, .empty, some route.allow, false⟩

end ServiceDiscovery.Http
