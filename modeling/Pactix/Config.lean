import Mathlib.Data.Int.ConditionallyCompleteOrder
import Mathlib.Data.Rat.Floor
import Mathlib.Tactic.Linarith
import Mathlib.Tactic.Ring

/-!
# Configuration and errors

The parts of `PactixConfig` and `WakeupPolicy` that the stores and runners read.  Python's float
multiplier is an exact rational here.
-/

namespace Pactix

/-- Python's exceptions, as far as the modelled code raises or passes them on. -/
inductive Error where
  | validation (message : String)
  | persistence (message : String)
  | routing (message : String)
  /-- A unique or primary key constraint of the database. -/
  | integrity (constraint : String)
  /-- A value that does not fit its column. -/
  | data (column : String)
  /-- `.one()` without a row. -/
  | noResult
  /-- Anything else a callback raises. -/
  | other (description : String)
  deriving DecidableEq, Repr

/-- A `timedelta`, in microseconds. -/
abbrev TimeDelta := Int

/-- `timedelta.total_seconds()`. -/
def TimeDelta.totalSeconds (delta : TimeDelta) : ℚ := (delta : ℚ) / 1000000

/-- Rounding to the nearest integer, ties to even. -/
def roundHalfEven (value : ℚ) : Int :=
  let below := ⌊value⌋
  let rest := value - below
  if rest < 1 / 2 then below
  else if 1 / 2 < rest then below + 1
  else if below % 2 = 0 then below
  else below + 1

@[simp] theorem roundHalfEven_intCast (value : Int) : roundHalfEven value = value := by
  simp [roundHalfEven]

/-- Rounding goes down or up by less than one. -/
theorem roundHalfEven_bounds (value : ℚ) :
    ⌊value⌋ ≤ roundHalfEven value ∧ roundHalfEven value ≤ ⌊value⌋ + 1 := by
  simp only [roundHalfEven]
  split_ifs <;> omega

theorem roundHalfEven_mono : Monotone roundHalfEven := by
  intro small large ordered
  have floors : ⌊small⌋ ≤ ⌊large⌋ := Int.floor_mono ordered
  rcases floors.lt_or_eq with below | same
  · have lower := (roundHalfEven_bounds large).1
    have upper := (roundHalfEven_bounds small).2
    omega
  · -- With the same floor, the larger rest is rounded up first.
    have rests : small - ⌊small⌋ ≤ large - ⌊small⌋ := sub_le_sub_right ordered _
    simp only [roundHalfEven, ← same]
    split_ifs <;> first | omega | linarith

/-- `timedelta(seconds=...)`, which rounds to microseconds. -/
def TimeDelta.ofSeconds (seconds : ℚ) : TimeDelta := roundHalfEven (seconds * 1000000)

/-- `delta * factor`, which rounds to microseconds. -/
def TimeDelta.times (delta : TimeDelta) (factor : ℚ) : TimeDelta :=
  roundHalfEven (delta * factor)

theorem TimeDelta.ofSeconds_mono : Monotone TimeDelta.ofSeconds := by
  intro small large ordered
  apply roundHalfEven_mono
  exact mul_le_mul_of_nonneg_right ordered (by norm_num)

@[simp] theorem TimeDelta.ofSeconds_totalSeconds (delta : TimeDelta) :
    TimeDelta.ofSeconds delta.totalSeconds = delta := by
  have exactly : delta.totalSeconds * 1000000 = (delta : ℚ) := by
    rw [TimeDelta.totalSeconds]
    exact div_mul_cancel₀ _ (by norm_num)
  rw [TimeDelta.ofSeconds, exactly, roundHalfEven_intCast]

/-- Scaling a duration is scaling its seconds. -/
theorem TimeDelta.ofSeconds_mul (delta : TimeDelta) (factor : ℚ) :
    TimeDelta.ofSeconds (delta.totalSeconds * factor) = delta.times factor := by
  rw [TimeDelta.ofSeconds, TimeDelta.times, TimeDelta.totalSeconds]
  congr 1
  ring

theorem TimeDelta.times_mono {delta : TimeDelta} (positive : 0 ≤ delta) :
    Monotone delta.times := by
  intro small large ordered
  apply roundHalfEven_mono
  exact mul_le_mul_of_nonneg_left ordered (by exact_mod_cast positive)

/-- Exponential-backoff retry policy. -/
structure RetryPolicy where
  maxAttempts : Int := 10
  initialInterval : TimeDelta := 1000000
  maxInterval : TimeDelta := 60000000
  multiplier : ℚ := 2

/-- How PostgreSQL NOTIFY wakeups are emitted. -/
inductive NotifyMode where
  | trigger
  | coalesced
  | off
  deriving DecidableEq, Repr

/-- Optional wakeup-driven scheduling for the outbox worker. -/
structure WakeupPolicy where
  enabled : Bool := false
  notifyMode : NotifyMode := .coalesced
  coalesceInterval : TimeDelta := 50000
  fallbackInitialInterval : TimeDelta := 1000000
  fallbackMaxInterval : TimeDelta := 60000000
  fallbackMultiplier : ℚ := 2

/-- Library configuration shared by the outbox and inbox stores.  The databases
reject a negative `LIMIT`, so batch sizes are natural numbers. -/
structure PactixConfig where
  outboxBatchSize : Nat := 100
  inboxBatchSize : Nat := 100
  leaseDuration : TimeDelta := 30000000
  retryPolicy : RetryPolicy := {}

end Pactix
