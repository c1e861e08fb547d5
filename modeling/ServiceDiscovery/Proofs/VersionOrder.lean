/-
This file proves that versions are ordered like natural numbers. Each component is a digit of
32 bits, so a version has a place among the numbers below `2 ^ 96`, and the comparison by
components is the comparison of the places.
-/

import ServiceDiscovery.Constraint

namespace ServiceDiscovery.Version

/-- The place of a version in the order. -/
def place (version : Version) : Nat :=
  (version.major.toNat * 4294967296 + version.minor.toNat) * 4294967296 + version.patch.toNat

theorem compare_toNat (first second : UInt32) :
    Ord.compare first second = Ord.compare first.toNat second.toNat := by
  show compareOfLessAndEq first second = compareOfLessAndEq first.toNat second.toNat
  simp only [compareOfLessAndEq, UInt32.lt_iff_toNat_lt, ← UInt32.toNat_inj]

/-- Comparing two digits one after the other is comparing the numbers that they form. -/
theorem then_compare (high high' : Nat) {low low' : Nat} (small : low < 4294967296)
    (small' : low' < 4294967296) :
    (Ord.compare high high').then (Ord.compare low low') =
      Ord.compare (high * 4294967296 + low) (high' * 4294967296 + low') := by
  rcases Nat.lt_trichotomy high high' with less | rfl | greater
  · have whole : high * 4294967296 + low < high' * 4294967296 + low' := by omega
    rw [Nat.compare_eq_lt.mpr less, Nat.compare_eq_lt.mpr whole]
    rfl
  · rw [Nat.compare_eq_eq.mpr rfl]
    rcases Nat.lt_trichotomy low low' with less | rfl | greater
    · have whole : high * 4294967296 + low < high * 4294967296 + low' := by omega
      rw [Nat.compare_eq_lt.mpr less, Nat.compare_eq_lt.mpr whole]
      rfl
    · rw [Nat.compare_eq_eq.mpr rfl, Nat.compare_eq_eq.mpr rfl]
      rfl
    · have whole : high * 4294967296 + low' < high * 4294967296 + low := by omega
      rw [Nat.compare_eq_gt.mpr greater, Nat.compare_eq_gt.mpr whole]
      rfl
  · have whole : high' * 4294967296 + low' < high * 4294967296 + low := by omega
    rw [Nat.compare_eq_gt.mpr greater, Nat.compare_eq_gt.mpr whole]
    rfl

theorem compare_eq (first second : Version) :
    first.compare second = Ord.compare first.place second.place := by
  rw [compare, compare_toNat, compare_toNat, compare_toNat, ← Ordering.then_assoc,
    then_compare _ _ first.minor.toNat_lt second.minor.toNat_lt,
    then_compare _ _ first.patch.toNat_lt second.patch.toNat_lt]
  rfl

/-- Versions at one place are one version. -/
theorem place_inj {first second : Version} : first.place = second.place ↔ first = second := by
  constructor
  · intro same
    have minorFirst := first.minor.toNat_lt
    have patchFirst := first.patch.toNat_lt
    have minorSecond := second.minor.toNat_lt
    have patchSecond := second.patch.toNat_lt
    obtain ⟨major, minor, patch⟩ := first
    obtain ⟨major', minor', patch'⟩ := second
    simp only [place, mk.injEq, ← UInt32.toNat_inj] at *
    omega
  · rintro rfl
    rfl

theorem compare_eq_lt_iff {first second : Version} :
    first.compare second = .lt ↔ first.place < second.place := by
  rw [compare_eq, Nat.compare_eq_lt]

theorem compare_eq_eq_iff {first second : Version} :
    first.compare second = .eq ↔ first = second := by
  rw [compare_eq, Nat.compare_eq_eq, place_inj]

theorem compare_eq_gt_iff {first second : Version} :
    first.compare second = .gt ↔ second.place < first.place := by
  rw [compare_eq, Nat.compare_eq_gt]

theorem atMost_iff {first second : Version} :
    first.atMost second = true ↔ first.place ≤ second.place := by
  rw [atMost, compare_eq, Nat.isLE_compare]

end ServiceDiscovery.Version

namespace ServiceDiscovery.Constraint

/-- The version that a constraint pins is one that fits. -/
theorem fits_of_pinned {constraint : Constraint} {version : Version}
    (pinned : constraint.pinned? = some version) : constraint.fits version = true := by
  cases constraint with
  | any => cases pinned
  | matching given =>
    cases pinned
    cases given <;> simp [fits, Components.fittedBy, Version.ofComponents]
  | caret base =>
    cases pinned
    simp [fits, Version.atMost_iff]
  | exact wanted =>
    cases pinned
    simp [fits]

end ServiceDiscovery.Constraint
