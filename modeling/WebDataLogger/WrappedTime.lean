import Mathlib.Algebra.Order.Group.Nat
import Mathlib.Data.Nat.ModEq

/-!
# Instants seen through a counter that wraps

A counter shows an unbounded instant modulo `M`. Two instants less than one turn of the
counter apart are told apart by it, and comparing what it shows with an earlier reading tells
whether it has wrapped since.
-/

namespace WebDataLogger.WrappedTime

variable {M : ℕ}

/-- Turns of the counter before an instant less than a turn later: the same, or one more. -/
theorem turn_cases {first later : ℕ} (hle : first≤later) (hlt : later<first+M) :
    later/M=first/M ∨ later/M=first/M+1 := by
  have hpos : 0<M := by omega
  have hlow : first/M≤later/M := Nat.div_le_div_right hle
  have hhigh : later/M≤(first+M)/M := Nat.div_le_div_right hlt.le
  rw [Nat.add_div_right first hpos] at hhigh
  omega

/-- Within one turn the counter keeps the order of the instants. -/
theorem mod_lt_mod_iff {first later : ℕ} (hturn : first/M=later/M) :
    first%M<later%M ↔ first<later := by
  have hfirst := Nat.div_add_mod first M
  have hlater := Nat.div_add_mod later M
  rw [hturn] at hfirst
  omega

/-- Within one turn the counter keeps the order of the instants. -/
theorem mod_le_mod_iff {first later : ℕ} (hturn : first/M=later/M) :
    first%M≤later%M ↔ first≤later := by
  rw [←not_lt,mod_lt_mod_iff hturn.symm,not_lt]

/-- A later reading below an earlier one shows that the counter has wrapped. -/
theorem wrapped_iff {first later : ℕ} (hle : first≤later) (hlt : later<first+M) :
    later%M<first%M ↔ later/M=first/M+1 := by
  have hfirst := Nat.div_add_mod first M
  have hlater := Nat.div_add_mod later M
  rcases turn_cases hle hlt with hturn|hturn
  · rw [mod_lt_mod_iff hturn]
    omega
  · rw [hturn,Nat.mul_add,Nat.mul_one] at hlater
    omega

/-- The counter is at zero exactly where a turn begins. -/
theorem turn_succ (now : ℕ) : (now+1)/M=now/M+if (now+1)%M=0 then 1 else 0 := by
  rw [Nat.succ_div]
  congr 1
  exact if_congr Nat.dvd_iff_mod_eq_zero rfl rfl

/-- The counter shows a step as one modulo `M`. -/
theorem mod_add (now step : ℕ) : (now%M+step)%M=(now+step)%M := Nat.mod_add_mod now M step

end WebDataLogger.WrappedTime
