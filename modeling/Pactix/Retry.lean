import Mathlib.Order.WithBot
import Pactix.Dialect
import Pactix.Message

/-!
# Retry scheduling and the retry-or-fail decision

Both runners route retryable failures through `handleRetryableFailure`.
-/

namespace Pactix

/-- Outcome of `handleRetryableFailure`. -/
inductive RetryAction where
  | retryScheduled
  | failed
  deriving DecidableEq, Repr

/-- Persistence operations the retry decision needs from a store. -/
structure RetryStore (Table : Type) where
  retryPolicy : RetryPolicy
  markRetry : UUID → String → DateTime → Table → Table
  markFailed : UUID → String → Table → Table

/-- `multiplier**attempts` in exact arithmetic; `none` is the `OverflowError`
raised when the power exceeds what a float can hold. -/
def floatPower (floatMax multiplier : ℚ) (attempts : Int) : Option ℚ :=
  let power := multiplier ^ attempts
  if floatMax < |power| then none else some power

/-- Compute the next retry time for `attempts` already made.  A `DateTime` has no last year, so
the `OverflowError` of a sum beyond the year 9999 is left out. -/
def nextRetryAt (floatMax : ℚ) (policy : RetryPolicy) (attempts : Int)
    (now : DateTime) : DateTime :=
  let initialSeconds := policy.initialInterval.totalSeconds
  let maxSeconds := policy.maxInterval.totalSeconds
  -- `math.inf` is `⊤`, so that the minimum below falls back to the cap.
  let scaledSeconds : WithTop ℚ :=
    match floatPower floatMax policy.multiplier attempts with
    | some power => ↑(initialSeconds * power)
    | none => ⊤
  let cappedSeconds := (min scaledSeconds ↑maxSeconds).untopD maxSeconds
  now.add (TimeDelta.ofSeconds cappedSeconds)

/-- How long a record is put off after so many attempts:
`min(initial_interval * multiplier**attempts, max_interval)`. -/
def RetryPolicy.delay (policy : RetryPolicy) (attempts : Nat) : TimeDelta :=
  min (policy.initialInterval.times (policy.multiplier ^ attempts)) policy.maxInterval

/-- The delays of a growing policy do not decrease. -/
theorem RetryPolicy.delay_mono {policy : RetryPolicy} (positive : 0 ≤ policy.initialInterval)
    (growing : 1 ≤ policy.multiplier) : Monotone policy.delay := by
  intro fewer more ordered
  apply min_le_min_right
  apply TimeDelta.times_mono positive
  exact pow_le_pow_right₀ growing ordered

/-- The delay in seconds, without and with the overflow. -/
theorem ofSeconds_min (policy : RetryPolicy) (factor : ℚ) :
    TimeDelta.ofSeconds (min (policy.initialInterval.totalSeconds * factor)
      policy.maxInterval.totalSeconds) =
        min (policy.initialInterval.times factor) policy.maxInterval := by
  rw [TimeDelta.ofSeconds_mono.map_min, TimeDelta.ofSeconds_mul,
    TimeDelta.ofSeconds_totalSeconds]

/-- An overflow makes no difference when the largest power without one is large enough to
reach the cap. -/
theorem nextRetryAt_eq {floatMax : ℚ} {policy : RetryPolicy}
    (positive : 0 ≤ policy.initialInterval) (nonneg : 0 ≤ policy.multiplier)
    (reaches : policy.maxInterval.totalSeconds ≤
      policy.initialInterval.totalSeconds * floatMax) (attempts : Nat) (now : DateTime) :
    nextRetryAt floatMax policy attempts now = now.add (policy.delay attempts) := by
  have power : policy.multiplier ^ (attempts : Int) = policy.multiplier ^ attempts :=
    zpow_natCast _ _
  simp only [nextRetryAt, floatPower, power]
  congr 1
  by_cases overflow : floatMax < |policy.multiplier ^ attempts|
  · simp only [overflow, if_true]
    rw [abs_of_nonneg (pow_nonneg nonneg attempts)] at overflow
    have seconds : 0 ≤ policy.initialInterval.totalSeconds := by
      rw [TimeDelta.totalSeconds]
      exact div_nonneg (by exact_mod_cast positive) (by norm_num)
    have capped : policy.maxInterval.totalSeconds ≤
        policy.initialInterval.totalSeconds * policy.multiplier ^ attempts :=
      reaches.trans (mul_le_mul_of_nonneg_left overflow.le seconds)
    rw [RetryPolicy.delay, ← ofSeconds_min, min_eq_right capped]
    simp
  · simp only [overflow, if_false]
    rw [RetryPolicy.delay, ← ofSeconds_min, ← WithTop.coe_min, WithTop.untopD_coe]

/-- Reschedule the record for retry, or mark it failed at the attempt ceiling. -/
def handleRetryableFailure {Table : Type} (floatMax : ℚ) (store : RetryStore Table)
    (id : UUID) (attempts maxAttempts : Int) (error : String) (now : DateTime)
    (table : Table) : RetryAction × Table :=
  if attempts + 1 ≥ maxAttempts then
    (.failed, store.markFailed id error table)
  else
    let retryAt := nextRetryAt floatMax store.retryPolicy attempts now
    (.retryScheduled, store.markRetry id error retryAt table)

end Pactix
