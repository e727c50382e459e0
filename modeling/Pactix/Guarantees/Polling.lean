import Pactix.Retry
import Pactix.Wakeup.Polling

/-!
# Fallback polling

The timeouts of the wakeup loop follow the capped exponential law that retries follow.
-/

namespace Pactix.Guarantees

open Foundation Wakeup

/-- The retry policy with the parameters of the fallback. -/
def retries (policy : WakeupPolicy) : RetryPolicy where
  initialInterval := policy.fallbackInitialInterval
  maxInterval := policy.fallbackMaxInterval
  multiplier := policy.fallbackMultiplier

/-- Retries are put off as fallback polls are. -/
theorem nextRetryAt_retries {policy : WakeupPolicy} (backsOff : BacksOff policy) {floatMax : ℚ}
    (reaches : policy.fallbackMaxInterval.totalSeconds ≤
      policy.fallbackInitialInterval.totalSeconds * floatMax) (idle : Nat) (now : DateTime) :
    nextRetryAt floatMax (retries policy) idle now =
      now.add (.ofSeconds (timeout policy idle)) := by
  have nonneg : 0 ≤ (retries policy).multiplier := zero_le_one.trans backsOff.growing
  rw [nextRetryAt_eq backsOff.positive.le nonneg reaches]
  congr 1
  exact (ofSeconds_min (retries policy) _).symm

/-- The wait after so many idle drains is the initial interval, multiplied as often, and
capped.  It is what the iterated backoff says, and the delay that a retry policy with the same
parameters has. -/
theorem fallback_polling (runner : WakeupRunner) (backsOff : BacksOff runner.policy) :
    let initial := runner.policy.fallbackInitialInterval.totalSeconds
    let maximum := runner.policy.fallbackMaxInterval.totalSeconds
    let multiplier := runner.policy.fallbackMultiplier
    (∀ shown state, Machine.Observed (machine runner) Machine.Free (polls runner)
        (.initial runner) shown state →
      ∀ (index : Nat) wait, shown[index]? = some (.waits wait) →
        wait = min (initial * multiplier ^ idleDrains (drains (shown.take index))) maximum ∧
        wait ≤ maximum ∧ initial ≤ wait ∧
        ∀ (later : Nat) next, index < later → shown[later]? = some (.waits next) →
          (∀ claimed, .returned claimed ∈ (shown.take later).drop index → claimed = 0) →
            wait ≤ next) ∧
    (∀ idle, (FallbackBackoff.recordIdle^[idle] (.new runner.policy)).currentSeconds =
      min (initial * multiplier ^ idle) maximum) ∧
    ∀ floatMax, maximum ≤ initial * floatMax → ∀ (idle : Nat) now,
      nextRetryAt floatMax (retries runner.policy) idle now =
        now.add (.ofSeconds (min (initial * multiplier ^ idle) maximum)) := by
  intro initial maximum multiplier
  refine ⟨?_, ?_, ?_⟩
  · intro shown state observed index wait waits
    have paced := (polls_of_observed backsOff observed).paced
    have law := paced index wait waits
    refine ⟨law, ?_, ?_, ?_⟩
    · rw [law]
      exact cappedPower_le _ _ _ _
    · rw [law]
      exact backsOff.le_timeout _
    · intro later next order nextWaits idle
      rw [law, paced later next nextWaits]
      apply backsOff.timeout_mono
      have prefixes : (shown.take later).take index = shown.take index := by
        rw [List.take_take, min_eq_left order.le]
      rw [← List.take_append_drop index (shown.take later), prefixes]
      exact idleDrains_le_append _ idle
  · intro idle
    exact (FallbackBackoff.iterate_recordIdle backsOff idle).2
  · intro floatMax reaches idle now
    exact nextRetryAt_retries backsOff reaches idle now

/-- Idle twice until the cap, then work in a drain of two passes. -/
def pollingRun : List Wakeup.Label :=
  [.begin, .timeout, .returned 0, .timeout, .returned 0, .timeout, .returned 0, .timeout,
    .returned 2, .returned 0]

def poller : WakeupRunner where
  policy := { enabled := true, fallbackMaxInterval := 3000000 }
  hasLocalWakeup := false
  dialect := .mysql

def polled :=
  (Machine.replayNoting (machine poller) Machine.Free (polls poller) [] (.initial poller)
    pollingRun).get (by decide +kernel)

theorem fallback_polling_sample :
    polled.1 = [.waits 1, .returned 0, .waits 2, .returned 0, .waits 3, .returned 0, .waits 3,
      .returned 2, .returned 0, .waits 1] ∧
    (∀ (index : Nat) wait, polled.1[index]? = some (.waits wait) → 1 ≤ wait ∧ wait ≤ 3) ∧
    nextRetryAt 1000 (retries poller.policy) 2 (.utc 0) = .utc 3000000 := by
  have backsOff : BacksOff poller.policy :=
    ⟨by decide +kernel, by decide +kernel, by decide +kernel⟩
  have claim := fallback_polling poller backsOff
  have observed := (machine poller).observed_replay Machine.Free (polls poller)
    (.initial poller) pollingRun (by decide +kernel)
  have seconds : poller.policy.fallbackInitialInterval.totalSeconds = 1 ∧
      poller.policy.fallbackMaxInterval.totalSeconds = 3 := by decide +kernel
  refine ⟨by decide +kernel, ?_, ?_⟩
  · intro index wait waits
    have law := claim.1 polled.1 polled.2 observed index wait waits
    rw [seconds.1, seconds.2] at law
    exact ⟨law.2.2.1, law.2.1⟩
  · have agrees := claim.2.2 1000 (by decide +kernel) 2 (.utc 0)
    exact agrees.trans (by decide +kernel)

end Pactix.Guarantees
