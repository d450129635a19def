import Mathlib.Algebra.Order.Floor.Ring
import Mathlib.Data.Rat.Floor
import Mathlib.Tactic.Linarith
import Mathlib.Tactic.NormNum

/-!
# Rationals truncated to one decimal place

Truncation toward zero is odd and is the floor of what is not negative. The tenths of
a number are its integer part and one digit of the same sign.
-/

namespace WebDataLogger.DecimalTruncation

/-- Integer part of a number, toward zero. -/
def truncate (x : ℚ) : ℤ := x.num.tdiv x.den

/-- Tenths of a number, truncated toward zero. -/
def tenthsOf (x : ℚ) : ℤ := truncate (x*10)

/-- First digit behind the point, with the sign of the number. -/
def tenthDigit (x : ℚ) : ℤ := truncate ((x-(truncate x : ℚ))*10)

/-- What is not negative is rounded down. -/
theorem truncate_of_nonneg {x : ℚ} (h : 0≤x) : truncate x=⌊x⌋ := by
  rw [truncate,Rat.floor_def',Int.tdiv_eq_ediv_of_nonneg (Rat.num_nonneg.mpr h)]

/-- Truncation is odd. -/
theorem truncate_neg (x : ℚ) : truncate (-x)=-truncate x := by
  rw [truncate,Rat.num_neg_eq_neg_num,Rat.den_neg_eq_den,Int.neg_tdiv,truncate]

/-- The tenths are odd. -/
theorem tenthsOf_neg (x : ℚ) : tenthsOf (-x)=-tenthsOf x := by
  rw [tenthsOf,neg_mul,truncate_neg,tenthsOf]

/-- The digit is odd. -/
theorem tenthDigit_neg (x : ℚ) : tenthDigit (-x)=-tenthDigit x := by
  have hrest : (-x-(truncate (-x) : ℚ))*10=-((x-(truncate x : ℚ))*10) := by
    rw [truncate_neg,Int.cast_neg]
    ring
  rw [tenthDigit,hrest,truncate_neg,tenthDigit]

/-- What is not negative has an integer part below it by less than one. -/
theorem truncate_bounds {x : ℚ} (h : 0≤x) :
    0≤truncate x ∧ (truncate x : ℚ)≤x ∧ x<truncate x+1 := by
  rw [truncate_of_nonneg h]
  exact ⟨Int.floor_nonneg.mpr h,Int.floor_le x,Int.lt_floor_add_one x⟩

/-- The digit of what is not negative. -/
theorem tenthDigit_of_nonneg {x : ℚ} (h : 0≤x) : 0≤tenthDigit x ∧ tenthDigit x<10 ∧
    tenthsOf x=10*truncate x+tenthDigit x := by
  obtain ⟨-,hlow,hhigh⟩ := truncate_bounds h
  have hrest : 0≤(x-(truncate x : ℚ))*10 := by linarith
  have hdigit : tenthDigit x=⌊(x-(truncate x : ℚ))*10⌋ := truncate_of_nonneg hrest
  refine ⟨?_,?_,?_⟩
  · rw [hdigit]
    exact Int.floor_nonneg.mpr hrest
  · rw [hdigit,Int.floor_lt]
    push_cast
    linarith
  · have hsplit : x*10=(x-(truncate x : ℚ))*10+((10*truncate x : ℤ) : ℚ) := by
      push_cast
      ring
    rw [hdigit,tenthsOf,truncate_of_nonneg (by linarith),hsplit,Int.floor_add_intCast]
    omega

/-- The tenths are the integer part and the digit. -/
theorem tenthsOf_eq (x : ℚ) : tenthsOf x=10*truncate x+tenthDigit x := by
  rcases le_total 0 x with h|h
  · exact (tenthDigit_of_nonneg h).2.2
  · have hneg := (tenthDigit_of_nonneg (neg_nonneg.mpr h)).2.2
    rw [tenthsOf_neg,truncate_neg,tenthDigit_neg] at hneg
    omega

/-- The digit has the sign of the integer part, if that is not zero, and one place. -/
theorem tenthDigit_bounds (x : ℚ) : (tenthDigit x).natAbs<10 ∧
    (truncate x<0 → tenthDigit x≤0) ∧ (0<truncate x → 0≤tenthDigit x) := by
  rcases le_total 0 x with h|h
  · obtain ⟨hlow,hhigh,-⟩ := tenthDigit_of_nonneg h
    have hwhole := (truncate_bounds h).1
    omega
  · obtain ⟨hlow,hhigh,-⟩ := tenthDigit_of_nonneg (neg_nonneg.mpr h)
    have hwhole := (truncate_bounds (neg_nonneg.mpr h)).1
    rw [tenthDigit_neg] at hlow hhigh
    rw [truncate_neg] at hwhole
    omega

/-- The integer part is positive from one on. -/
theorem truncate_pos_iff {x : ℚ} : 0<truncate x ↔ 1≤x := by
  rcases le_total 0 x with h|h
  · rw [truncate_of_nonneg h,Int.floor_pos]
  · have hwhole := (truncate_bounds (neg_nonneg.mpr h)).1
    rw [truncate_neg] at hwhole
    exact ⟨fun hpos => by omega,fun hone => by linarith⟩

/-- The integer part is negative up to minus one. -/
theorem truncate_neg_iff {x : ℚ} : truncate x<0 ↔ x ≤ -1 := by
  have hpos : 0<truncate (-x) ↔ 1 ≤ -x := truncate_pos_iff
  rw [truncate_neg] at hpos
  constructor
  · intro h
    have hone := hpos.mp (by omega)
    linarith
  · intro h
    have hneg := hpos.mpr (by linarith)
    omega

end WebDataLogger.DecimalTruncation
