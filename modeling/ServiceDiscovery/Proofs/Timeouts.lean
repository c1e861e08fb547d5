/-
This file proves how a round that was given up is reported. A resolution that asked the network
and came to nothing names the time for which the transport waited as its cause. That time is
counted in whole milliseconds by a counter of 64 bits. The counter has room for every time that
can be set for a round; of a longer one the report keeps the remainder, which is less.
-/

import ServiceDiscovery.Config.Settings
import ServiceDiscovery.Proofs.Policy

namespace ServiceDiscovery

/-! ### The counter -/

namespace Duration

variable {span : Duration}

theorem toNat_countedMilliseconds (span : Duration) :
    span.countedMilliseconds.toNat = span.milliseconds % UInt64.size :=
  UInt64.toNat_ofNat'

theorem toNat_countedMilliseconds_eq_iff :
    span.countedMilliseconds.toNat = span.milliseconds ↔ span.milliseconds < UInt64.size := by
  rw [toNat_countedMilliseconds]
  exact Nat.mod_eq_iff_lt (by decide)

theorem toNat_countedMilliseconds_lt (long : UInt64.size ≤ span.milliseconds) :
    span.countedMilliseconds.toNat < span.milliseconds :=
  Nat.lt_of_lt_of_le span.countedMilliseconds.toNat_lt long

theorem milliseconds_ofMilliseconds (milliseconds : Nat) :
    (ofMilliseconds milliseconds).milliseconds = milliseconds :=
  Nat.mul_div_cancel milliseconds (by decide)

end Duration

/-- The counter shows the time that is set for a round. -/
theorem DiscoverySettings.countedMilliseconds_timeout (settings : DiscoverySettings) :
    settings.timeout.countedMilliseconds = settings.timeoutMilliseconds := by
  refine UInt64.toNat_inj.mp ?_
  have same : settings.timeout.milliseconds = settings.timeoutMilliseconds.toNat :=
    Duration.milliseconds_ofMilliseconds _
  rw [Duration.toNat_countedMilliseconds_eq_iff.mpr (same ▸ UInt64.toNat_lt _), same]

/-! ### The report -/

namespace Resolver

variable {resolver : Resolver} {query : Query} {now : Instant}

/-- A query that finds nothing on its node or in the cache, and whose round fails, fails for the
reason of the round. -/
theorem result_of_failed (wellFormed : resolver.WellFormed)
    (addressed : isUnaddressed query = false) (outward : query.localOnly = false)
    (unmatched : resolver.localMatch query = none)
    (missing : (resolver.remoteMatch query now).1 = none) (busy : Bool) (error : TransportError)
    (ending : Instant) :
    (resolver.resolve query busy now fun _ => ⟨.error error, ending⟩).result =
      .error (.notFound query.request (some (.ofTransport error))) := by
  have still : ((resolver.asked query now fun _ => ⟨.error error, ending⟩).remoteMatch query
      ending).1 = none := remoteMatch_asked_of_nil wellFormed missing rfl
  rw [resolve_of_missing addressed outward (Or.inr unmatched) missing, finish_of_missing still,
    unmatched]
  rfl

end Resolver

namespace Moment

/-- What is reported if a query has to ask the network, its node has no match, and the transport
gives up after some time: nothing was found, because the round timed out after a number of
milliseconds. The number is that of the whole milliseconds that the transport waited, without
the full turns of the counter. It is right exactly if they are fewer than 2 to the power of 64,
as they are for every time that can be set for a round, and too small otherwise. -/
theorem timeout_reported {moment : Moment} (reachable : moment.Reachable) {query : Query}
    {busy : Bool} (away : moment.resolver.LooksAway query busy)
    (unmatched : moment.resolver.localMatch query = none) (unknown : ¬ moment.HasFresh query)
    (waited span : Duration) :
    ∃ counted : UInt64,
      (moment.resolution query busy (.error (.timeout waited)) span).result =
        .error (.notFound query.request (some (.timedOut counted))) ∧
      counted.toNat = waited.milliseconds % UInt64.size ∧
      (counted.toNat = waited.milliseconds ↔ waited.milliseconds < UInt64.size) ∧
      (UInt64.size ≤ waited.milliseconds → counted.toNat < waited.milliseconds) ∧
      ∀ settings : DiscoverySettings, waited = settings.timeout →
        counted = settings.timeoutMilliseconds := by
  have wellFormed := reachable.wellFormed
  have addressed := Resolver.isUnaddressed_eq_false_iff.mpr away.addressed
  refine ⟨waited.countedMilliseconds, ?_, waited.toNat_countedMilliseconds,
    Duration.toNat_countedMilliseconds_eq_iff, Duration.toNat_countedMilliseconds_lt, ?_⟩
  · exact Resolver.result_of_failed wellFormed.resolver addressed away.outward unmatched
      ((wellFormed.missing_iff addressed).mpr unknown) busy (.timeout waited) _
  · rintro settings rfl
    exact settings.countedMilliseconds_timeout

theorem looksAway_asker : asker.resolver.LooksAway anyGreeting false :=
  ⟨rfl, fun nameless => Bool.false_ne_true nameless.1, Or.inl rfl⟩

theorem not_hasFresh_asker : ¬ asker.HasFresh anyGreeting :=
  fun ⟨_, impossible, _⟩ => List.not_mem_nil impossible

/-- A node that knows nothing reports the two seconds that are set for a round. -/
theorem timeout_reported_asker :
    asker.Reachable ∧ asker.resolver.LooksAway anyGreeting false ∧
      asker.resolver.localMatch anyGreeting = none ∧ ¬ asker.HasFresh anyGreeting ∧
      (asker.resolution anyGreeting false
        (.error (.timeout DiscoverySettings.standard.timeout)) ⟨7⟩).result =
          .error (.notFound anyGreeting.request (some (.timedOut 2000))) := by
  have reachable : asker.Reachable := .start _ _ (Nat.zero_le _)
  obtain ⟨counted, failed, _, _, _, exact⟩ := timeout_reported reachable looksAway_asker rfl
    not_hasFresh_asker DiscoverySettings.standard.timeout ⟨7⟩
  rw [exact DiscoverySettings.standard rfl] at failed
  exact ⟨reachable, looksAway_asker, rfl, not_hasFresh_asker, failed⟩

/-- A transport that gives up after more than half a billion years is reported to have waited for
less than half a second. -/
theorem timeout_wraps :
    let waited := Duration.ofSeconds 18446744073709552
    asker.Reachable ∧ asker.resolver.LooksAway anyGreeting false ∧
      asker.resolver.localMatch anyGreeting = none ∧ ¬ asker.HasFresh anyGreeting ∧
      waited.milliseconds = 18446744073709552000 ∧
      (asker.resolution anyGreeting false (.error (.timeout waited)) ⟨7⟩).result =
        .error (.notFound anyGreeting.request (some (.timedOut 384))) :=
  ⟨.start _ _ (Nat.zero_le _), looksAway_asker, rfl, not_hasFresh_asker, by decide, by rfl⟩

end Moment

end ServiceDiscovery
