/-
This file proves that the versions that fit a constraint are exactly those between an oldest and
a newest one. The oldest has zeros for what the constraint leaves open, which is how an exact
request addresses a version, and the newest has the largest components there. So a constraint
pins the least version that fits, and nothing between two versions that fit is left out.
-/

import Mathlib.Order.Interval.Set.OrdConnected
import ServiceDiscovery.Proofs.VersionOrder

namespace ServiceDiscovery

/-! ### The order of versions -/

namespace Version

instance : LE Version := ⟨fun first second => first.atMost second = true⟩

theorem le_iff_place {first second : Version} : first ≤ second ↔ first.place ≤ second.place :=
  atMost_iff

instance : PartialOrder Version where
  le_refl version := le_iff_place.mpr (Nat.le_refl _)
  le_trans first second third below above :=
    le_iff_place.mpr (Nat.le_trans (le_iff_place.mp below) (le_iff_place.mp above))
  le_antisymm first second below above :=
    place_inj.mp (Nat.le_antisymm (le_iff_place.mp below) (le_iff_place.mp above))

/-- The largest value of a component. -/
def largest : UInt32 := 4294967295

theorem toNat_largest : largest.toNat = 4294967295 := rfl

end Version

/-! ### The two bounds of a constraint -/

namespace Constraint

/-- The oldest version that fits. -/
def oldest : Constraint → Version
  | .any => ⟨0, 0, 0⟩
  | .matching given => Version.ofComponents given
  | .caret base => base
  | .exact version => version

/-- The newest version that fits. -/
def newest : Constraint → Version
  | .any => ⟨Version.largest, Version.largest, Version.largest⟩
  | .matching (.one major) => ⟨major, Version.largest, Version.largest⟩
  | .matching (.two major minor) => ⟨major, minor, Version.largest⟩
  | .matching (.three major minor patch) => ⟨major, minor, patch⟩
  | .caret base => ⟨base.major, Version.largest, Version.largest⟩
  | .exact version => version

/-- A version fits if and only if it is between the bounds. -/
theorem fits_iff_mem_Icc (constraint : Constraint) (version : Version) :
    constraint.fits version = true ↔ version ∈ Set.Icc constraint.oldest constraint.newest := by
  -- What a constraint leaves open is the tail of the number that is the version's place.
  have minorSmall := version.minor.toNat_lt
  have patchSmall := version.patch.toNat_lt
  rw [Set.mem_Icc, Version.le_iff_place, Version.le_iff_place]
  cases constraint with
  | any =>
    have majorSmall := version.major.toNat_lt
    refine iff_of_true rfl ?_
    simp only [oldest, newest, Version.place, Version.toNat_largest, UInt32.toNat_zero]
    omega
  | matching given =>
    cases given with
    | one major =>
      simp only [fits, Components.fittedBy, beq_iff_eq, ← UInt32.toNat_inj, oldest, newest,
        Version.ofComponents, Version.place, Version.toNat_largest, UInt32.toNat_zero]
      omega
    | two major minor =>
      have minorGiven := minor.toNat_lt
      simp only [fits, Components.fittedBy, Bool.and_eq_true, beq_iff_eq, ← UInt32.toNat_inj,
        oldest, newest, Version.ofComponents, Version.place, Version.toNat_largest,
        UInt32.toNat_zero]
      omega
    | three major minor patch =>
      have minorGiven := minor.toNat_lt
      have patchGiven := patch.toNat_lt
      simp only [fits, Components.fittedBy, Bool.and_eq_true, beq_iff_eq, ← UInt32.toNat_inj,
        oldest, newest, Version.ofComponents, Version.place]
      omega
  | caret base =>
    have minorBase := base.minor.toNat_lt
    have patchBase := base.patch.toNat_lt
    simp only [fits, Bool.and_eq_true, beq_iff_eq, ← UInt32.toNat_inj, Version.atMost_iff, oldest,
      newest, Version.place, Version.toNat_largest]
    omega
  | exact wanted =>
    simp only [fits, beq_iff_eq, oldest, newest, ← Version.place_inj]
    omega

theorem setOf_fits (constraint : Constraint) :
    {version | constraint.fits version = true} = Set.Icc constraint.oldest constraint.newest :=
  Set.ext constraint.fits_iff_mem_Icc

theorem pinned_eq_none_iff {constraint : Constraint} :
    constraint.pinned? = none ↔ constraint = .any := by
  cases constraint <;> simp [pinned?]

/-- An exact request addresses the oldest version that fits. -/
theorem oldest_of_pinned {constraint : Constraint} {version : Version}
    (pinned : constraint.pinned? = some version) : constraint.oldest = version := by
  cases constraint with
  | any => cases pinned
  | matching given => exact Option.some.inj pinned
  | caret base => exact Option.some.inj pinned
  | exact wanted => exact Option.some.inj pinned

/-- Only the star pins no version. What any other constraint pins is the least version that fits,
and all versions between two that fit do so too. -/
theorem fits_between (constraint : Constraint) :
    (constraint.pinned? = none ↔ constraint = .any) ∧
    (∀ version, constraint.pinned? = some version →
      IsLeast {version | constraint.fits version = true} version) ∧
    {version | constraint.fits version = true}.OrdConnected := by
  rw [setOf_fits]
  refine ⟨pinned_eq_none_iff, fun version pinned => ?_, Set.ordConnected_Icc⟩
  rw [← oldest_of_pinned pinned]
  have within := Set.mem_Icc.mp ((constraint.fits_iff_mem_Icc version).mp (fits_of_pinned pinned))
  exact isLeast_Icc (within.1.trans within.2)

/-- A caret pins its base, and 1.10.3 fits as it is between 1.9.0 and 1.11.0. -/
theorem fits_between_caret :
    (Constraint.caret ⟨1, 2, 0⟩).pinned? = some ⟨1, 2, 0⟩ ∧
    IsLeast {version | (Constraint.caret ⟨1, 2, 0⟩).fits version = true} ⟨1, 2, 0⟩ ∧
    (Constraint.caret ⟨1, 2, 0⟩).fits ⟨1, 10, 3⟩ = true := by
  obtain ⟨_, least, between⟩ := fits_between (.caret ⟨1, 2, 0⟩)
  have older : (Constraint.caret ⟨1, 2, 0⟩).fits ⟨1, 9, 0⟩ = true := by decide
  have newer : (Constraint.caret ⟨1, 2, 0⟩).fits ⟨1, 11, 0⟩ = true := by decide
  have above : (⟨1, 9, 0⟩ : Version).atMost ⟨1, 10, 3⟩ = true := by decide
  have below : (⟨1, 10, 3⟩ : Version).atMost ⟨1, 11, 0⟩ = true := by decide
  exact ⟨rfl, least _ rfl, between.out older newer ⟨above, below⟩⟩

end Constraint

end ServiceDiscovery
