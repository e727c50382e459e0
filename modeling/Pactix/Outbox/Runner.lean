import Pactix.Outbox.Publisher
import Pactix.Worker.Pass

/-!
# One-pass outbox worker

Claim and reclaim run in one transaction; the publisher runs outside any
transaction; each state update runs in its own.
-/

namespace Pactix.Outbox

open Queue (Verdict)
open Worker

variable {J : Type}

/-- Aggregate counters from a single `runOnce`. -/
structure RunSummary where
  reclaimed : Nat := 0
  claimed : Nat := 0
  published : Nat := 0
  retryScheduled : Nat := 0
  failed : Nat := 0
  deriving DecidableEq, Repr

/-- A pass of the outbox runner.  Its only callback is `publishers.publish(row)`. -/
abbrev OutboxPass (J : Type) :=
  Pass (OutboxMessageRecord J) (OutboxMessageRecord J) (fun _ => PublishOutcome) RunSummary

/-- The loop of `run_once` over the claimed rows. -/
def deliver (summary : RunSummary) : List (OutboxMessageRecord J) → OutboxPass J
  | [] => .done (.ok summary)
  | row :: rows =>
      .call (.ask row) fun
        | .error error => .done (.error error)
        | .ok outcome =>
            match outcome.kind with
            | .published =>
                .call (.markDone row.id) fun _ =>
                  deliver { summary with published := summary.published + 1 } rows
            | .retryable =>
                .call (.handleRetryableFailure row.id row.attempts row.maxAttempts
                    (outcome.message.getD "")) fun
                  | .retryScheduled =>
                      deliver { summary with retryScheduled := summary.retryScheduled + 1 } rows
                  | .failed => deliver { summary with failed := summary.failed + 1 } rows
            | .terminal =>
                .call (.markFailed row.id (outcome.message.getD "")) fun _ =>
                  deliver { summary with failed := summary.failed + 1 } rows

/-- `OutboxRunner.run_once`. -/
def runOnce : OutboxPass J :=
  .call .utcnow fun now =>
    .call (.reclaimAndClaim .fifo now) fun (reclaimed, claimedRows) =>
      deliver { reclaimed, claimed := claimedRows.length } claimedRows

/-! ## The runner as a routine -/

/-- The verdict of a publish attempt. -/
def PublishOutcome.verdict (outcome : PublishOutcome) : Verdict :=
  match outcome.kind with
  | .published => .done
  | .retryable => .retryable (outcome.message.getD "")
  | .terminal => .terminal (outcome.message.getD "")

def RunSummary.tally : Recorded → RunSummary → RunSummary
  | .done, summary => { summary with published := summary.published + 1 }
  | .retryScheduled, summary => { summary with retryScheduled := summary.retryScheduled + 1 }
  | .failed, summary => { summary with failed := summary.failed + 1 }

def routine : Routine (OutboxMessageRecord J) (OutboxMessageRecord J)
    (fun _ => PublishOutcome) RunSummary where
  id := OutboxMessageRecord.id
  attempts := OutboxMessageRecord.attempts
  maxAttempts := OutboxMessageRecord.maxAttempts
  inquire row := .ask row fun outcome => .settled outcome.verdict RunSummary.tally

theorem deliver_eq (summary : RunSummary) (rows : List (OutboxMessageRecord J)) :
    deliver summary rows = routine.deliver summary rows := by
  induction rows generalizing summary with
  | nil => rfl
  | cons row rows ih =>
      simp only [deliver, Routine.deliver, routine, Inquiry.pursue]
      congr 1
      funext reply
      cases reply with
      | error error => rfl
      | ok outcome =>
          obtain ⟨kind, message⟩ := outcome
          cases kind with
          | published =>
              simp only [PublishOutcome.verdict, Routine.record, ih]
              rfl
          | retryable =>
              simp only [PublishOutcome.verdict, Routine.record, ih]
              congr 1
              funext action
              cases action <;> rfl
          | terminal =>
              simp only [PublishOutcome.verdict, Routine.record, ih]
              rfl

theorem runOnce_eq :
    runOnce (J := J) = routine.runOnce .fifo
      fun reclaimed claimed => { reclaimed, claimed } := by
  simp only [runOnce, Routine.runOnce, deliver_eq]

end Pactix.Outbox
