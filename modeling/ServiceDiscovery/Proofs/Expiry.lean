/-
This file proves that instances expire by exact arithmetic. An instance is outdated if the moment
at which its lifetime ends has passed, and it never is if the clock does not reach that moment.
The second rule agrees with the first, because the clock shows no later moment either: in both
cases an instance is outdated if and only if more time than its lifetime has passed since the last
sight of it. So it stays outdated until it is seen again, and if it is fresh for one lifetime it
is fresh for every longer one. What a lookup drops, every later lookup would have dropped.
-/

import ServiceDiscovery.Proofs.Instances

namespace ServiceDiscovery

namespace Instance

variable {occurrence : Instance} {lifetime longer : Duration} {now later : Instant}

/-- The time since the instance was last seen, negative before that. -/
def age (occurrence : Instance) (now : Instant) : Int :=
  now.nanoseconds - occurrence.lastSeen.nanoseconds

/-! ### One instance -/

theorem isOutdated_iff_lt_age (occurrence : Instance) (lifetime : Duration)
    (reached : now.nanoseconds ≤ Instant.last.nanoseconds) :
    occurrence.isOutdated lifetime now = true ↔
      (lifetime.nanoseconds : Int) < occurrence.age now := by
  rw [occurrence.isOutdated_iff lifetime reached, age]
  omega

/-- If the clock stops before the lifetime ends, some of it is left at every moment. -/
theorem age_lt_of_endless (endless : occurrence.lastSeen.add? lifetime = none)
    (reached : now.nanoseconds ≤ Instant.last.nanoseconds) :
    occurrence.age now < lifetime.nanoseconds := by
  have beyond := Instant.add_eq_none_iff.mp endless
  rw [age]
  omega

theorem isOutdated_of_endless (endless : occurrence.lastSeen.add? lifetime = none)
    (now : Instant) : occurrence.isOutdated lifetime now = false := by
  rw [isOutdated, endless]

/-- An outdated instance stays outdated. -/
theorem isOutdated_of_passed (passed : now.nanoseconds ≤ later.nanoseconds)
    (outdated : occurrence.isOutdated lifetime now = true) :
    occurrence.isOutdated lifetime later = true := by
  rw [isOutdated_iff_ended] at outdated ⊢
  exact ⟨outdated.1, Nat.lt_of_lt_of_le outdated.2 passed⟩

/-- A fresh instance is fresh for every longer lifetime. -/
theorem isOutdated_of_prolonged (prolonged : lifetime.nanoseconds ≤ longer.nanoseconds)
    (fresh : occurrence.isOutdated lifetime now = false) :
    occurrence.isOutdated longer now = false := by
  rw [← Bool.not_eq_true, isOutdated_iff_ended] at fresh ⊢
  omega

/-- Of several sights only the last one counts. -/
theorem foldl_touch (occurrence : Instance) (sights : List Instant) :
    sights.foldl touch occurrence =
      occurrence.touch (sights.getLast?.getD occurrence.lastSeen) := by
  induction sights generalizing occurrence with
  | nil => rfl
  | cons sight others inductionHypothesis =>
    rw [List.foldl_cons, inductionHypothesis, List.getLast?_cons]
    rfl

end Instance

/-! ### The instances that a lookup keeps -/

namespace Cache

/-- A lookup keeps the instances that are no older than the lifetime. -/
theorem fresh_eq_filter_age (lifetime : Duration) {now : Instant}
    (reached : now.nanoseconds ≤ Instant.last.nanoseconds) (instances : List Instance) :
    fresh lifetime now instances =
      instances.filter fun occurrence => occurrence.age now ≤ (lifetime.nanoseconds : Int) := by
  refine List.filter_congr fun occurrence _ => ?_
  rw [Bool.eq_iff_iff, Bool.not_eq_true', ← Bool.not_eq_true, decide_eq_true_iff,
    occurrence.isOutdated_iff_lt_age lifetime reached, Int.not_lt]

/-- A lookup takes nothing away from a later one. -/
theorem fresh_fresh (lifetime : Duration) {now later : Instant}
    (passed : now.nanoseconds ≤ later.nanoseconds) (instances : List Instance) :
    fresh lifetime later (fresh lifetime now instances) = fresh lifetime later instances := by
  rw [fresh, fresh, fresh, List.filter_filter]
  refine List.filter_congr fun occurrence _ => Bool.and_eq_left_iff_imp.mpr fun stays => ?_
  rw [Bool.not_eq_true', ← Bool.not_eq_true] at stays ⊢
  exact mt (Instance.isOutdated_of_passed passed) stays

end Cache

namespace Instance

/-- An instance is outdated at a moment of the clock if and only if, in exact arithmetic, more time
than the lifetime has passed since it was last seen, also if the clock stops before the lifetime
ends. Of all sights of it only the last one counts. An outdated instance is outdated at every
later moment, a fresh one is fresh for every longer lifetime, and one that was just made or seen is
fresh for any lifetime. A lookup keeps exactly the instances that are no older than the lifetime,
and those that it drops would have been dropped by every later lookup. -/
theorem isOutdated_exact (lifetime : Duration) :
    (∀ (occurrence : Instance) (now : Instant), now.nanoseconds ≤ Instant.last.nanoseconds →
      (occurrence.isOutdated lifetime now = true ↔
        (lifetime.nanoseconds : Int) < occurrence.age now) ∧
      (occurrence.lastSeen.add? lifetime = none →
        occurrence.isOutdated lifetime now = false ∧
          occurrence.age now < lifetime.nanoseconds) ∧
      ∀ sights : List Instant,
        (sights.foldl touch occurrence).isOutdated lifetime now = true ↔
          lifetime.nanoseconds < (now.nanoseconds : Int) -
            (sights.getLast?.getD occurrence.lastSeen).nanoseconds) ∧
    (∀ (occurrence : Instance) (now later : Instant), now.nanoseconds ≤ later.nanoseconds →
      occurrence.isOutdated lifetime now = true → occurrence.isOutdated lifetime later = true) ∧
    (∀ (occurrence : Instance) (longer : Duration) (now : Instant),
      lifetime.nanoseconds ≤ longer.nanoseconds →
      occurrence.isOutdated lifetime now = false → occurrence.isOutdated longer now = false) ∧
    (∀ now : Instant,
      (∀ identity handle, (here identity handle now).isOutdated lifetime now = false) ∧
      (∀ identity agent node rank,
        (remote identity agent node rank now).isOutdated lifetime now = false) ∧
      ∀ occurrence : Instance, (occurrence.touch now).isOutdated lifetime now = false) ∧
    ∀ (now : Instant) (instances : List Instance),
      (now.nanoseconds ≤ Instant.last.nanoseconds →
        Cache.fresh lifetime now instances =
          instances.filter fun occurrence =>
            occurrence.age now ≤ (lifetime.nanoseconds : Int)) ∧
      ∀ later : Instant, now.nanoseconds ≤ later.nanoseconds →
        Cache.fresh lifetime later (Cache.fresh lifetime now instances) =
          Cache.fresh lifetime later instances := by
  refine ⟨fun occurrence now reached => ⟨occurrence.isOutdated_iff_lt_age lifetime reached,
      fun endless => ⟨isOutdated_of_endless endless now, age_lt_of_endless endless reached⟩,
      fun sights => ?_⟩,
    fun _ _ _ => isOutdated_of_passed, fun _ _ _ => isOutdated_of_prolonged,
    fun now => ⟨fun _ _ => isOutdated_of_seen rfl lifetime,
      fun _ _ _ _ => isOutdated_of_seen rfl lifetime, fun _ => isOutdated_of_seen rfl lifetime⟩,
    fun now instances => ⟨fun reached => Cache.fresh_eq_filter_age lifetime reached instances,
      fun later passed => Cache.fresh_fresh lifetime passed instances⟩⟩
  rw [foldl_touch]
  exact isOutdated_iff_lt_age _ lifetime reached

/-- An instance that was seen five nanoseconds before the clock stops. -/
def belated : Instance :=
  remote ⟨"greeting", ⟨1, 0, 0⟩⟩ "greeter" (Bytes32.filled 1) 0 ⟨Instant.last.nanoseconds - 5⟩

/-- One nanosecond before the clock stops, three nanoseconds of lifetime are over and four are not;
at the last moment the three still are. The longest lifetime of all ends after the last moment, and
is not over then; nor is none at all, if the instance is seen in that moment. -/
theorem isOutdated_exact_belated :
    let eve : Instant := ⟨Instant.last.nanoseconds - 1⟩
    let longest : Duration := .ofParts 0xFFFFFFFFFFFFFFFF 999999999
    eve.nanoseconds ≤ Instant.last.nanoseconds ∧ belated.age eve = 4 ∧
      belated.isOutdated ⟨3⟩ eve = true ∧ belated.isOutdated ⟨3⟩ Instant.last = true ∧
      belated.isOutdated ⟨4⟩ eve = false ∧ (4 ≤ longest.nanoseconds) ∧
      belated.isOutdated longest eve = false ∧ belated.lastSeen.add? longest = none ∧
      belated.isOutdated longest Instant.last = false ∧
      (belated.touch Instant.last).isOutdated ⟨0⟩ Instant.last = false ∧
      Cache.fresh ⟨3⟩ Instant.last (Cache.fresh ⟨3⟩ eve [belated]) = [] := by
  intro eve longest
  have reached : eve.nanoseconds ≤ Instant.last.nanoseconds := by decide
  have four : belated.age eve = 4 := by decide
  have endless : belated.lastSeen.add? longest = none := by decide
  have short : 4 ≤ longest.nanoseconds := by decide
  obtain ⟨three, passed, _, _, kept⟩ := isOutdated_exact ⟨3⟩
  have ended : belated.isOutdated ⟨3⟩ eve = true :=
    (three belated eve reached).1.mpr (by rw [four]; decide)
  obtain ⟨inTime, _, prolonged, _⟩ := isOutdated_exact ⟨4⟩
  have left : belated.isOutdated ⟨4⟩ eve = false := by
    rw [← Bool.not_eq_true, (inTime belated eve reached).1, four]
    decide
  obtain ⟨forever, _⟩ := isOutdated_exact longest
  obtain ⟨_, _, _, seen, _⟩ := isOutdated_exact ⟨0⟩
  refine ⟨reached, four, ended, passed _ _ _ reached ended, left, short,
    prolonged _ _ _ short left, endless, ((forever _ _ (Nat.le_refl _)).2.1 endless).1,
    (seen Instant.last).2.2 belated, ?_⟩
  rw [(kept eve [belated]).2 Instant.last reached, (kept Instant.last [belated]).1 (Nat.le_refl _)]
  decide

end Instance

end ServiceDiscovery
