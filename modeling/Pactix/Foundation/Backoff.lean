import Mathlib.Algebra.Order.GroupWithZero.Basic
import Mathlib.Algebra.Order.Ring.Defs

/-!
# Capped exponential growth

A quantity is multiplied by a factor again and again and never exceeds a cap.  Capping after
every step and capping once at the end come to the same.
-/

namespace Pactix.Foundation

variable {K : Type} [Semiring K] [LinearOrder K] [IsOrderedRing K]
variable {initial factor cap : K}

/-- The quantity after so many steps. -/
def cappedPower (initial factor cap : K) (count : Nat) : K :=
  min (initial * factor ^ count) cap

omit [IsOrderedRing K] in
theorem cappedPower_zero (within : initial ≤ cap) : cappedPower initial factor cap 0 = initial := by
  rw [cappedPower, pow_zero, mul_one, min_eq_left within]

omit [IsOrderedRing K] in
theorem cappedPower_le (initial factor cap : K) (count : Nat) :
    cappedPower initial factor cap count ≤ cap :=
  min_le_right _ _

variable (positive : 0 ≤ initial) (growing : 1 ≤ factor)
include positive growing

theorem cappedPower_mono {fewer more : Nat} (ordered : fewer ≤ more) :
    cappedPower initial factor cap fewer ≤ cappedPower initial factor cap more := by
  apply min_le_min_right
  apply mul_le_mul_of_nonneg_left _ positive
  exact pow_le_pow_right₀ growing ordered

theorem le_cappedPower (within : initial ≤ cap) (count : Nat) :
    initial ≤ cappedPower initial factor cap count := by
  have start : cappedPower initial factor cap 0 ≤ cappedPower initial factor cap count :=
    cappedPower_mono positive growing (Nat.zero_le count)
  rwa [cappedPower_zero within] at start

/-- One more step, capped. -/
theorem cappedPower_succ (within : initial ≤ cap) (count : Nat) :
    min (cappedPower initial factor cap count * factor) cap =
      cappedPower initial factor cap (count + 1) := by
  have nonneg : 0 ≤ cap := positive.trans within
  have grown : initial * factor ^ count ≤ initial * factor ^ (count + 1) :=
    mul_le_mul_of_nonneg_left (pow_le_pow_right₀ growing count.le_succ) positive
  rcases le_total (initial * factor ^ count) cap with below | reached
  · rw [cappedPower, cappedPower, min_eq_left below, pow_succ, mul_assoc]
  · -- Once the cap is reached, both stay there.
    have capped : cap ≤ cap * factor := le_mul_of_one_le_right nonneg growing
    rw [cappedPower, cappedPower, min_eq_right reached, min_eq_right capped,
      min_eq_right (reached.trans grown)]

end Pactix.Foundation
