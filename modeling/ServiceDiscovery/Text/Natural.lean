/-
This file writes natural numbers in decimal and reads them back. Only the ten ASCII digits
count as digits, leading zeros are fine, and a reader with a limit refuses what reaches it.
-/

namespace ServiceDiscovery.Text

/-- The value of an ASCII digit. -/
def digitValue? (char : Char) : Option Nat :=
  if 0x30 ≤ char.toNat ∧ char.toNat ≤ 0x39 then some (char.toNat - 0x30) else none

def isDigit (char : Char) : Bool :=
  (digitValue? char).isSome

/-- The digit of a value below ten. -/
def digitChar (value : Nat) : Char :=
  Char.ofNat (0x30 + value % 10)

/-- A number in decimal, without leading zeros. -/
def decimal (value : Nat) : List Char :=
  if value < 10 then [digitChar value] else decimal (value / 10) ++ [digitChar (value % 10)]

/-- A number in decimal with zeros in front, up to a least width. -/
def paddedDecimal (width value : Nat) : List Char :=
  let digits := decimal value
  List.replicate (width - digits.length) '0' ++ digits

/-- The number that digits stand for, continuing from the digits already read. -/
def digitsFrom? (value : Nat) : List Char → Option Nat
  | [] => some value
  | char :: rest => do digitsFrom? (value * 10 + (← digitValue? char)) rest

/-- One or more digits. -/
def natural? : List Char → Option Nat
  | [] => none
  | char :: rest => do digitsFrom? (← digitValue? char) rest

/-- One or more digits after at most one plus sign, for a number below the limit. -/
def bounded? (limit : Nat) (text : List Char) : Option Nat :=
  let digits := match text with
    | '+' :: rest => rest
    | _ => text
  match natural? digits with
  | some value => if value < limit then some value else none
  | none => none

/-! ### Writing, then reading -/

theorem digitValue_digitChar {value : Nat} (small : value < 10) :
    digitValue? (digitChar value) = some value := by
  have each : ∀ digit : Fin 10, digitValue? (digitChar digit) = some digit.val := by decide
  exact each ⟨value, small⟩

theorem digitsFrom_append (value : Nat) (front back : List Char) :
    digitsFrom? value (front ++ back) = (digitsFrom? value front).bind (digitsFrom? · back) := by
  induction front generalizing value with
  | nil => rfl
  | cons char rest inductionHypothesis =>
    simp only [List.cons_append, digitsFrom?]
    cases digitValue? char with
    | none => rfl
    | some digit => exact inductionHypothesis _

theorem decimal_ne_nil (value : Nat) : decimal value ≠ [] := by
  rw [decimal]
  split <;> simp

theorem natural_append_digit {front : List Char} {value digit : Nat} (char : Char)
    (known : natural? front = some value) (read : digitValue? char = some digit) :
    natural? (front ++ [char]) = some (value * 10 + digit) := by
  cases front with
  | nil => simp [natural?] at known
  | cons first rest =>
    simp only [natural?, List.cons_append] at known ⊢
    cases leading : digitValue? first with
    | none => rw [leading] at known; simp at known
    | some start =>
      rw [leading] at known
      have tail : digitsFrom? start rest = some value := known
      show digitsFrom? start (rest ++ [char]) = _
      rw [digitsFrom_append, tail]
      simp [digitsFrom?, read]

theorem natural_decimal (value : Nat) : natural? (decimal value) = some value := by
  rw [decimal]
  split
  · rename_i small
    simp [natural?, digitValue_digitChar small, digitsFrom?]
  · have smaller : value / 10 < value := by omega
    rw [natural_append_digit _ (natural_decimal (value / 10))
      (digitValue_digitChar (Nat.mod_lt value (by decide)))]
    congr 1
    omega
termination_by value

end ServiceDiscovery.Text
