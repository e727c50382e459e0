import Pactix.Guarantees.Outcomes
import Pactix.Worker.Schedule

/-!
# The retry schedule, end to end

What becomes of a new row whose deliveries all fail for a while, over all the passes that
deliver it.
-/

namespace Pactix.Guarantees

open Foundation Worker
open Queue (Event Verdict Phase deliveries marks)

section Service

variable {Worker Row Ask Summary Arrival Receipt Body : Type} {Reply : Ask → Type}
variable (service : Service Worker Row Ask Summary Arrival Receipt Body Reply)

/-- A row that keeps to the retry policies of the workers after the events, in which deliveries
count from zero. -/
structure Scheduled (policy : Worker → RetryPolicy) (events : List (Event Worker Int))
    (row : Row) : Prop where
  attempts : (service.entry row).attempts = (marks events).length
  /-- Every delivery is recorded before the next one. -/
  alternate : (marks events).length ≤ (deliveries events).length ∧
    (deliveries events).length ≤ (marks events).length + 1
  limited : ((deliveries events).length : Int) ≤ max 1 (service.entry row).card.ceiling
  terminal : (service.entry row).phase.terminal = true → (service.entry row).phase = .failed
  fails_at : (service.entry row).phase = .failed ↔
    ((marks events).length : Int) = max 1 (service.entry row).card.ceiling
  /-- A delivery that is not the last one puts the row off. -/
  postponed : (service.entry row).phase ≠ .failed → ∀ (count : Nat) mark,
    (marks events)[count]? = some mark → count + 1 = (marks events).length →
      (service.entry row).due = mark.2 + (policy mark.1).delay count
  /-- The next delivery does not come earlier. -/
  spaced : ∀ (count : Nat) mark delivery, (marks events)[count]? = some mark →
    (deliveries events)[count + 1]? = some delivery →
      mark.2 + (policy mark.1).delay count ≤ delivery.1
  failed : (service.entry row).phase = .failed →
    (service.entry row).attempts = max 1 (service.entry row).card.ceiling ∧
      ((deliveries events).length : Int) = max 1 (service.entry row).card.ceiling ∧
      (service.entry row).lease = none ∧
      ∃ time message, (deliveries events).getLast? = some (time, .retryable message) ∧
        (service.entry row).error = some message

variable {service} {delivers : Ask → Bool} {id : UUID} {table : List Row} {clock : Int}
variable {events : List (Event Worker Int)} {row : Row} {policy : Worker → RetryPolicy}
variable [DecidableEq Worker] {state : State Worker Row Ask Summary Arrival Receipt Reply}

/-- A row whose deliveries are attended keeps to the policies of the workers. -/
theorem scheduled_of_observed
    (planned : ∀ worker (attempts : Nat) time,
      service.schedule worker attempts time = time + (policy worker).delay attempts)
    (opening : Opening service id table)
    (observed : Machine.Observed (machine service) (Attends service delivers id)
      (noted service delivers id) { State.initial clock with table } events state)
    (stored : row ∈ state.table) (about : service.store.id row = id) :
    Scheduled service policy events row := by
  obtain ⟨queue, simulates, orderly, retried⟩ := onTime_of_observed opening observed
  have named : (service.entry row).named id = true := by
    rw [Queue.Entry.named, service.refines.id_entry]
    exact decide_eq_true about
  have listed : service.entry row ∈ (queue.only id).entries :=
    List.mem_filter.mpr ⟨simulates.mem_entries stored, named⟩
  have lone := Queue.lone_only id queue
  have onSchedule := retried.entries (service.entry row) listed
  have balanced := retried.balanced
  constructor
  case attempts => exact onSchedule.attempts
  case alternate => constructor <;> omega
  case limited => exact retried.limited lone orderly listed
  case terminal =>
    intro terminal
    rcases onSchedule.stage with ⟨isOpen, _⟩ | ⟨isFailed, _⟩
    · simp [isOpen] at terminal
    · exact isFailed
  case fails_at => exact onSchedule.failed_iff
  case postponed =>
    intro notFailed count mark marked last
    have isOpen : (service.entry row).phase.terminal = false := by
      rcases onSchedule.stage with ⟨isOpen, _⟩ | ⟨isFailed, _⟩
      · exact isOpen
      · exact absurd isFailed notFailed
    have latest : (marks events).getLast? = some mark := by
      rw [List.getLast?_eq_getElem?, ← last]
      exact marked
    have counted : (service.entry row).attempts - 1 = count := by
      have := onSchedule.attempts
      omega
    rw [onSchedule.due isOpen mark latest, counted, planned]
  case spaced =>
    intro count mark delivery marked delivered
    rw [← planned]
    exact retried.spaced count mark delivery marked delivered
  case failed =>
    intro isFailed
    obtain ⟨last, message⟩ := onSchedule.failed isFailed
    have finished := retried.finished lone orderly listed isFailed
    have unleased : (service.entry row).lease = none := by
      have leased := (orderly.sound.leased _ listed).mpr
      rw [isFailed] at leased
      simpa using leased
    exact ⟨onSchedule.attempts.trans last, by rw [finished, last], unleased, message⟩

end Service

/-- The callback that delivers a message to the application.  The filter and the hook only
look at the record. -/
def handles {J : Type} : Inbox.Query J → Bool
  | .staleEventFilter _ => false
  | .idempotencyHook _ => false
  | .handler _ => true

/-- A new row whose deliveries are all answered retryable, and recorded before their leases
expire, is delivered as often as `max_attempts` allows, spaced as the policy says, and then
fails. -/
theorem retry_schedule {Worker J : Type} [DecidableEq Worker] (deployment : Deployment Worker)
    (mode : Worker → Inbox.Mode)
    (positive : ∀ worker, 0 < (deployment.config worker).retryPolicy.initialInterval)
    (nonneg : ∀ worker, 0 ≤ (deployment.config worker).retryPolicy.multiplier)
    (reaches : ∀ worker, (deployment.config worker).retryPolicy.maxInterval.totalSeconds ≤
      (deployment.config worker).retryPolicy.initialInterval.totalSeconds *
        deployment.floatMax) :
    let policy := fun worker => (deployment.config worker).retryPolicy
    (let service := Outbox.service (J := J) deployment
      let delivers := fun _ => true
      ∀ id table clock events state, Opening service id table →
        Machine.Observed (machine service) (Attends service delivers id)
          (noted service delivers id) { State.initial clock with table } events state →
        ∀ row ∈ state.table, row.id = id → Scheduled service policy events row) ∧
    (let service := Inbox.service (J := J) deployment mode
      ∀ id table clock events state, Opening service id table →
        Machine.Observed (machine service) (Attends service handles id)
          (noted service handles id) { State.initial clock with table } events state →
        ∀ row ∈ state.table, row.id = id → Scheduled service policy events row) ∧
    (∀ worker, 1 ≤ (policy worker).multiplier → Monotone (policy worker).delay) := by
  have planned : ∀ worker (attempts : Nat) (time : Int),
      (nextRetryAt deployment.floatMax (deployment.config worker).retryPolicy attempts
        (.utc time)).instant = time + (deployment.config worker).retryPolicy.delay attempts := by
    intro worker attempts time
    rw [nextRetryAt_eq (positive worker).le (nonneg worker) (reaches worker),
      DateTime.instant_add, DateTime.instant_utc]
  refine ⟨?_, ?_, ?_⟩
  · intro service delivers id table clock events state opening observed row stored about
    exact scheduled_of_observed planned opening observed stored about
  · intro service id table clock events state opening observed row stored about
    exact scheduled_of_observed planned opening observed stored about
  · exact fun worker => RetryPolicy.delay_mono (positive worker).le

/-- Two workers publish a row in vain.  The second one comes when the row is due again. -/
def vainRun : List OutboxLabel :=
  [appending 1 0 m1, .spawn false, publishing false 1, publishing false 1,
    publishing false 2 (.retryable "busy"), publishing false 3, .spawn true,
    publishing true 4, publishing true 4, publishing true 5 (.retryable "down"),
    publishing true 6]

def vainHandlerRun : List InboxLabel :=
  [receiving 1 0 m1, .spawn false, handling false 1, handling false 1, handling false 2,
    handling false 2 (.retryable "busy"), handling false 3, .spawn true, handling true 4,
    handling true 4, handling true 5, handling true 5 (.retryable "down"), handling true 6]

/-- What has been noted, and the state after that. -/
def publishedInVain :=
  (Machine.replayNoting (machine outbox) (Attends outbox (fun _ => true) 1)
    (noted outbox (fun _ => true) 1) [] (.initial 0) vainRun).get (by decide +kernel)

def handledInVain :=
  (Machine.replayNoting (machine inbox) (Attends inbox handles 1)
    (noted inbox handles 1) [] (.initial 0) vainHandlerRun).get (by decide +kernel)

theorem retry_schedule_sample :
    (deliveries publishedInVain.1 =
        [(2 * second, .retryable "busy"), (5 * second, .retryable "down")] ∧
      publishedInVain.2.table.map (fun row => (row.status, row.attempts, row.lastError)) =
        [(.failed, 2, some "down")] ∧
      ∀ row ∈ publishedInVain.2.table, row.id = 1 →
        Scheduled outbox (fun _ => twoAttempts.retryPolicy) publishedInVain.1 row) ∧
    (deliveries handledInVain.1 =
        [(2 * second, .retryable "busy"), (5 * second, .retryable "down")] ∧
      ∀ row ∈ handledInVain.2.table, row.id = 1 →
        Scheduled inbox (fun _ => twoAttempts.retryPolicy) handledInVain.1 row) ∧
    Monotone twoAttempts.retryPolicy.delay := by
  have claim := retry_schedule (J := Unit) deployment
    (fun (_ : Bool) => .fifoPerOrderingKey) (by decide +kernel) (by decide +kernel)
    (by decide +kernel)
  have observed := (machine outbox).observed_replay (Attends outbox (fun _ => true) 1)
    (noted outbox (fun _ => true) 1) (.initial 0) vainRun (by decide +kernel)
  have observedHandler := (machine inbox).observed_replay (Attends inbox handles 1)
    (noted inbox handles 1) (.initial 0) vainHandlerRun (by decide +kernel)
  refine ⟨⟨by decide +kernel, by decide +kernel, ?_⟩, ⟨by decide +kernel, ?_⟩, ?_⟩
  · exact claim.1 1 [] 0 _ _ ⟨by simp, by simp, by simp⟩ observed
  · exact claim.2.1 1 [] 0 _ _ ⟨by simp, by simp, by simp⟩ observedHandler
  · exact claim.2.2 false (by decide +kernel)

end Pactix.Guarantees
