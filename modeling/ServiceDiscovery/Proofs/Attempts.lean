/-
This file takes attempts apart that may fail. One attempt after another succeeds if both do, and
one with a different result succeeds if the attempt itself does.
-/

namespace ServiceDiscovery.Except

variable {Fault First Second : Type} {attempt : Except Fault First}

theorem bind_eq_ok_iff {next : First → Except Fault Second} {result : Second} :
    (attempt >>= next) = .ok result ↔
      ∃ value, attempt = .ok value ∧ next value = .ok result := by
  constructor
  · intro done
    cases attempt with
    | error fault => cases done
    | ok value => exact ⟨value, rfl, done⟩
  · rintro ⟨value, rfl, done⟩
    exact done

theorem map_eq_ok_iff {change : First → Second} {result : Second} :
    attempt.map change = .ok result ↔ ∃ value, attempt = .ok value ∧ change value = result := by
  cases attempt with
  | error fault => exact iff_of_false nofun nofun
  | ok value => simp only [Except.map, Except.ok.injEq, exists_eq_left']

end ServiceDiscovery.Except
