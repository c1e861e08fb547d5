/-
This file proves what a call over HTTP can change. A call goes one of four ways: it leaves the
node alone, it resolves a form, it removes the instance that a form names, or it clears the
cache. Only calls that post to a place of their own go the last three ways, and none of them
touches anything but the cache. Hence nothing is dropped from the cache by looking at it, and
nothing changes when a call is refused.
-/

import ServiceDiscovery.Proofs.Policy

namespace ServiceDiscovery

theorem Node.resolve_eq (node : Node) (query : Query) (busy : Bool) (outcome : Round.Outcome) :
    node.resolve query busy outcome =
      ⟨{ node with
          resolver := (node.resolver.resolve query busy node.now fun _ =>
            ⟨outcome, node.now⟩).resolver },
        (node.resolver.resolve query busy node.now fun _ => ⟨outcome, node.now⟩).sent,
        (node.resolver.resolve query busy node.now fun _ => ⟨outcome, node.now⟩).result⟩ :=
  rfl

/-- A resolution changes nothing but the cache, and sends one question at most. -/
theorem Node.resolve_frame (node : Node) (query : Query) (busy : Bool) (outcome : Round.Outcome) :
    (node.resolve query busy outcome).node =
        node.withCache (node.resolve query busy outcome).node.cache ∧
      (node.resolve query busy outcome).sent.length ≤ 1 := by
  have course : Resolver.Course node.resolver query busy node.now
      (fun _ => ⟨outcome, node.now⟩) _ := Resolver.resolve_course
  rw [Node.resolve_eq]
  generalize node.resolver.resolve query busy node.now _ = resolution at course ⊢
  obtain ⟨id, registry, _⟩ := course.frame
  refine ⟨?_, ?_⟩
  · show ({ node with resolver := resolution.resolver } : Node) =
      { node with resolver := ⟨node.resolver.node, node.resolver.registry, _⟩ }
    rw [← id, ← registry]
    rfl
  · cases course with
    | unaddressed | localOnly | here | cached => exact Nat.zero_le 1
    | discovered | fallback | nothing => exact Nat.le_refl 1

namespace Http

/-! ### Places -/

namespace Route

def path : Route → String
  | .status => "/api/status"
  | .services => "/api/services"
  | .cache => "/api/cache"
  | .resolve => "/api/resolve"
  | .remove => "/api/cache/remove"
  | .clear => "/api/cache/clear"

theorem ofPath_eq_some_iff {path : String} {route : Route} :
    ofPath? path = some route ↔ path = route.path := by
  constructor
  · intro placed
    unfold ofPath? at placed
    split at placed <;> cases placed <;> rfl
  · rintro rfl
    cases route <;> rfl

theorem ofPath_eq_none_iff {path : String} :
    ofPath? path = none ↔ ∀ route : Route, path ≠ route.path := by
  rw [Option.eq_none_iff_forall_ne_some]
  exact forall_congr' fun route => not_congr ofPath_eq_some_iff

/-- A place that changes something is posted to. -/
theorem method_of_knows {route : Route} (changing : route.isListing = false) {method : String}
    (known : route.knows method = true) : method = "POST" := by
  rw [knows, changing] at known
  exact beq_iff_eq.mp known

end Route

/-! ### The ways of a call -/

/-- The ways of a call, each with the effect that it has. -/
inductive Course (context : Context) (node : Node) (outcome : Round.Outcome) (call : Call) :
    Effect → Prop where
  | untouched (answer : Answer) : Course context node outcome call (unchanged node answer)
  | resolved (posted : call.method = "POST") (placed : call.path = "/api/resolve")
      {form : ResolveForm} (read : call.form ResolveForm.ofJson = .ok form) {request : Request}
      (parsed : Request.parse form.name form.version = .ok request) {resolution : Node.Resolution}
      (done : node.resolve ⟨request, form.exact, form.localOnly, context.agent⟩ context.busy
        outcome = resolution) :
      Course context node outcome call
        ⟨resolution.node, resolution.sent, answerOf resolution.result⟩
  | removed (posted : call.method = "POST") (placed : call.path = "/api/cache/remove")
      {form : RemoveForm} (read : call.form RemoveForm.ofJson = .ok form) {occurrence : Instance}
      (named : form.occurrence node.now = .ok occurrence) :
      Course context node outcome call (unchanged (node.removeRemote occurrence).1
        (.ok (Json.ofFields [("removed", .bool (node.removeRemote occurrence).2)])))
  | cleared (posted : call.method = "POST") (placed : call.path = "/api/cache/clear") :
      Course context node outcome call (clear node)

variable {context : Context} {node : Node} {outcome : Round.Outcome} {call : Call}

/-- What a place does is the same for every method, but for the body of the answer. -/
theorem forMethod_unchanged (method : String) (node : Node) (answer : Answer) :
    ∃ shown, (unchanged node answer).forMethod method = unchanged node shown := by
  unfold Effect.forMethod
  split
  · exact ⟨answer.withoutBody, rfl⟩
  · exact ⟨answer, rfl⟩

theorem forMethod_post (effect : Effect) : effect.forMethod "POST" = effect :=
  if_neg (by decide)

theorem course_resolve (posted : call.method = "POST") (placed : call.path = "/api/resolve") :
    Course context node outcome call
      (withForm node call ResolveForm.ofJson (resolve context node outcome)) := by
  unfold withForm
  split
  · rename_i form read
    unfold resolve
    split
    · exact .untouched _
    · rename_i request parsed
      exact .resolved posted placed read parsed rfl
  · exact .untouched _

theorem course_remove (posted : call.method = "POST") (placed : call.path = "/api/cache/remove") :
    Course context node outcome call (withForm node call RemoveForm.ofJson (remove node)) := by
  unfold withForm
  split
  · rename_i form read
    unfold remove
    split
    · exact .untouched _
    · rename_i occurrence named
      exact .removed posted placed read named
  · exact .untouched _

/-- Every call goes one of the four ways. -/
theorem handle_course (context : Context) (node : Node) (outcome : Round.Outcome) (call : Call) :
    Course context node outcome call (handle context node outcome call) := by
  unfold handle
  split
  · exact .untouched _
  · split
    · exact .untouched _
    · rename_i route found
      have placed := Route.ofPath_eq_some_iff.mp found
      split
      · rename_i known
        cases listing : route.isListing with
        | true =>
          obtain ⟨answer, same⟩ : ∃ answer,
              (serve context node outcome call route).forMethod call.method =
                unchanged node answer := by
            cases route with
            | status | services | cache => exact forMethod_unchanged _ _ _
            | resolve | remove | clear => cases listing
          rw [same]
          exact .untouched answer
        | false =>
          have posted := Route.method_of_knows listing known
          rw [posted, forMethod_post]
          cases route with
          | status | services | cache => cases listing
          | resolve => exact course_resolve posted placed
          | remove => exact course_remove posted placed
          | clear => exact .cleared posted placed
      · exact .untouched _

/-! ### What each way says -/

namespace Course

variable {effect : Effect}

/-- A call changes nothing but the cache. -/
theorem frame (course : Course context node outcome call effect) :
    effect.node = node.withCache effect.node.cache := by
  cases course with
  | untouched | removed | cleared => rfl
  | resolved posted placed read parsed done =>
    rw [← done]
    exact (node.resolve_frame _ _ _).1

/-- Only a well-formed call to resolve asks the network, and asks once at most. -/
theorem budget (course : Course context node outcome call effect) :
    effect.sent.length ≤ 1 ∧ (effect.sent ≠ [] →
      call.method = "POST" ∧ call.path = "/api/resolve" ∧
        ∃ form request, call.form ResolveForm.ofJson = .ok form ∧
          Request.parse form.name form.version = .ok request) := by
  cases course with
  | untouched | removed | cleared => exact ⟨Nat.zero_le 1, fun sent => absurd rfl sent⟩
  | resolved posted placed read parsed done =>
    rw [← done]
    exact ⟨(node.resolve_frame _ _ _).2, fun _ => ⟨posted, placed, _, _, read, parsed⟩⟩

/-- A call that changes something posts to a place that changes something. -/
theorem changing (course : Course context node outcome call effect) (changed : effect.node ≠ node) :
    call.method = "POST" ∧
      call.path ∈ ["/api/resolve", "/api/cache/remove", "/api/cache/clear"] := by
  cases course with
  | untouched => exact absurd rfl changed
  | resolved posted placed | removed posted placed | cleared posted placed =>
    rw [placed]
    exact ⟨posted, by decide⟩

theorem status_answerOf (result : Except DiscoveryError Instance) :
    (answerOf result).status = 200 ∨ (answerOf result).status = 404 ∨
      (answerOf result).status = 500 := by
  unfold answerOf
  split
  · exact Or.inl rfl
  · exact Or.inr (Or.inl rfl)
  · exact Or.inr (Or.inr rfl)

/-- A call that is refused changes nothing. -/
theorem refused (course : Course context node outcome call effect)
    (refusal : effect.answer.status ∈ [400, 405, 413, 415, 422]) : effect.node = node := by
  cases course with
  | untouched => rfl
  | removed | cleared =>
    change 200 ∈ _ at refusal
    exact absurd refusal (by decide)
  | resolved posted placed read parsed done =>
    rename_i resolution
    change (answerOf resolution.result).status ∈ _ at refusal
    rcases status_answerOf resolution.result with status | status | status <;>
      exact absurd (status ▸ refusal) (by decide)

end Course

/-! ### The frame of a call -/

theorem handle_of_unknown (context : Context) (node : Node) (outcome : Round.Outcome)
    {call : Call} (unknown : ∀ route : Route, call.path ≠ route.path) :
    (handle context node outcome call).node = node ∧
      (call.method ≠ "OPTIONS" → (handle context node outcome call).answer.status = 404) := by
  unfold handle
  rw [Route.ofPath_eq_none_iff.mpr unknown]
  split
  · rename_i asking
    exact ⟨rfl, fun other => absurd asking other⟩
  · exact ⟨rfl, fun _ => rfl⟩

/-- What a call can change. Whatever it is, it leaves everything but the cache as it was, the
services of the node and the log of what was told included. It asks the network only if it posts
a well-formed form to resolve, and asks once at most. It changes the cache only if it posts to
resolve, to remove or to clear, and not if it is refused or has a path that is unknown. Looking
at the node changes nothing, so it drops nothing, however long ago that was seen. -/
theorem handle_frame (context : Context) (node : Node) (outcome : Round.Outcome) (call : Call) :
    (handle context node outcome call).node =
        node.withCache (handle context node outcome call).node.cache ∧
    (handle context node outcome call).node.registry = node.registry ∧
    (handle context node outcome call).node.log = node.log ∧
    (handle context node outcome call).sent.length ≤ 1 ∧
    ((handle context node outcome call).sent ≠ [] →
      call.method = "POST" ∧ call.path = "/api/resolve" ∧
        ∃ form request, call.form ResolveForm.ofJson = .ok form ∧
          Request.parse form.name form.version = .ok request) ∧
    ((handle context node outcome call).node.cache ≠ node.cache →
      call.method = "POST" ∧
        call.path ∈ ["/api/resolve", "/api/cache/remove", "/api/cache/clear"]) ∧
    ((handle context node outcome call).answer.status ∈ [400, 405, 413, 415, 422] →
      (handle context node outcome call).node = node) ∧
    ((∀ route : Route, call.path ≠ route.path) →
      (handle context node outcome call).node = node ∧
        (call.method ≠ "OPTIONS" → (handle context node outcome call).answer.status = 404)) ∧
    (call.method = "GET" → (handle context node outcome call).node = node ∧
      (handle context node outcome call).sent = []) := by
  have course := handle_course context node outcome call
  have frame := course.frame
  refine ⟨frame, ?_, ?_, course.budget.1, course.budget.2, fun changed => ?_, course.refused,
    handle_of_unknown context node outcome, fun looking => ⟨?_, ?_⟩⟩
  · rw [frame]
    rfl
  · rw [frame]
    rfl
  · exact course.changing fun same => changed (congrArg Node.cache same)
  · refine Classical.byContradiction fun changed => ?_
    exact absurd (looking.symm.trans (course.changing changed).1) (by decide)
  · refine Classical.byContradiction fun sent => ?_
    exact absurd (looking.symm.trans (course.budget.2 sent).1) (by decide)

/-- The busy node with a service of its own and with two from elsewhere that it saw too long
ago. -/
def neglected : Node :=
  ⟨Moment.overloaded.resolver, Moment.overloaded.now, [], .idle, 1⟩

def cacheCall : Call :=
  ⟨"GET", "/api/cache", [], []⟩

/-- Looking at the cache drops neither of the two. A call that resolves asks once and drops the
one that it looks for; the service of the node stays what it is. -/
theorem handle_frame_neglected :
    (handle ⟨"api", ⟨0⟩, true⟩ neglected Moment.noReplies cacheCall).node.cache.size = 2 ∧
    (handle ⟨"api", ⟨0⟩, true⟩ neglected Moment.noReplies Moment.greetingCall).node.cache.size = 1 ∧
    (handle ⟨"api", ⟨0⟩, true⟩ neglected Moment.noReplies Moment.greetingCall).sent.length = 1 ∧
    (handle ⟨"api", ⟨0⟩, true⟩ neglected Moment.noReplies Moment.greetingCall).node.registry =
      neglected.registry := by
  obtain ⟨_, _, _, _, _, _, _, _, looking⟩ :=
    handle_frame ⟨"api", ⟨0⟩, true⟩ neglected Moment.noReplies cacheCall
  obtain ⟨_, services, _, _, _, _, _, _, _⟩ :=
    handle_frame ⟨"api", ⟨0⟩, true⟩ neglected Moment.noReplies Moment.greetingCall
  refine ⟨?_, ?_, ?_, services⟩
  · rw [(looking rfl).1]
    decide
  · rw [handle_resolve _ _ _ rfl (by decide) Moment.form_greetingCall]
    decide
  · rw [handle_resolve _ _ _ rfl (by decide) Moment.form_greetingCall]
    decide

end Http

end ServiceDiscovery
