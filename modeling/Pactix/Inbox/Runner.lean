import Pactix.Inbox.Callbacks
import Pactix.Worker.Pass

/-!
# One-pass inbox worker

Reclaim and claim run in one transaction; the stale filter, the idempotency hook
and the handler run outside any transaction; each state update runs in its own.
-/

namespace Pactix.Inbox

open Queue (Verdict)
open Worker

variable {J : Type}

/-- The processing strategy of a runner. -/
inductive Mode where
  | fifoPerOrderingKey
  | unordered
  deriving DecidableEq, Repr

/-- The claim query that a mode uses. -/
def Mode.query : Mode → ClaimQuery
  | .fifoPerOrderingKey => .fifo
  | .unordered => .unordered

/-- Aggregate counters from a single `runOnce`. -/
structure RunSummary where
  reclaimed : Nat := 0
  claimed : Nat := 0
  processed : Nat := 0
  staleSkipped : Nat := 0
  retryScheduled : Nat := 0
  failed : Nat := 0
  deriving DecidableEq, Repr

/-- A pass of the inbox runner. -/
abbrev InboxPass (J : Type) :=
  Pass (InboxMessageRecord J) (Query J) Query.Reply RunSummary

/-- The part of the loop body that begins with the idempotency hook; `next` is the
rest of the loop. -/
def process (row : InboxMessageRecord J) (summary : RunSummary)
    (next : RunSummary → InboxPass J) : InboxPass J :=
  .call (.ask (.idempotencyHook row)) fun
    | .error error => .done (.error error)
    | .ok .process =>
        .call (.ask (.handler row)) fun
          | .error error => .done (.error error)
          | .ok outcome =>
              match outcome.kind with
              | .processed =>
                  .call (.markDone row.id) fun _ =>
                    next { summary with processed := summary.processed + 1 }
              | .retryable =>
                  .call (.handleRetryableFailure row.id row.attempts row.maxAttempts
                      (outcome.message.getD "")) fun
                    | .retryScheduled =>
                        next { summary with retryScheduled := summary.retryScheduled + 1 }
                    | .failed => next { summary with failed := summary.failed + 1 }
              | .terminal =>
                  .call (.markFailed row.id (outcome.message.getD "")) fun _ =>
                    next { summary with failed := summary.failed + 1 }
    -- SKIP or ALREADY_APPLIED
    | .ok _ =>
        .call (.markDone row.id) fun _ =>
          next { summary with processed := summary.processed + 1 }

/-- The loop of `run_once` over the claimed rows. -/
def deliver (mode : Mode) (summary : RunSummary) :
    List (InboxMessageRecord J) → InboxPass J
  | [] => .done (.ok summary)
  | row :: rows =>
      match mode with
      | .fifoPerOrderingKey =>
          process row summary fun summary => deliver mode summary rows
      | .unordered =>
          .call (.ask (.staleEventFilter row)) fun
            | .error error => .done (.error error)
            | .ok .stale =>
                .call (.markDone row.id) fun _ =>
                  deliver mode { summary with
                    processed := summary.processed + 1
                    staleSkipped := summary.staleSkipped + 1 } rows
            | .ok .fresh => process row summary fun summary => deliver mode summary rows

/-- `InboxRunner.run_once`. -/
def runOnce (mode : Mode) : InboxPass J :=
  .call .utcnow fun now =>
    .call (.reclaimAndClaim mode.query now) fun (reclaimed, claimedRows) =>
      deliver mode { reclaimed, claimed := claimedRows.length } claimedRows

/-! ## The runner as a routine -/

/-- The verdict of a handler invocation. -/
def HandleOutcome.verdict (outcome : HandleOutcome) : Verdict :=
  match outcome.kind with
  | .processed => .done
  | .retryable => .retryable (outcome.message.getD "")
  | .terminal => .terminal (outcome.message.getD "")

/-- What a reply settles.  `none` means that the next callback is asked. -/
def Query.judge : (query : Query J) → query.Reply → Option Verdict
  | .staleEventFilter _, .stale => some .done
  | .staleEventFilter _, .fresh => none
  | .idempotencyHook _, .process => none
  | .idempotencyHook _, _ => some .done
  | .handler _, outcome => some outcome.verdict

def RunSummary.tally : Recorded → RunSummary → RunSummary
  | .done, summary => { summary with processed := summary.processed + 1 }
  | .retryScheduled, summary => { summary with retryScheduled := summary.retryScheduled + 1 }
  | .failed, summary => { summary with failed := summary.failed + 1 }

def RunSummary.tallyStale (_ : Recorded) (summary : RunSummary) : RunSummary :=
  { summary with
    processed := summary.processed + 1, staleSkipped := summary.staleSkipped + 1 }

/-- The callbacks from the idempotency hook on. -/
def inquireFresh (row : InboxMessageRecord J) : Inquiry (Query J) Query.Reply RunSummary :=
  .ask (.idempotencyHook row) fun
    | .process => .ask (.handler row) fun outcome => .settled outcome.verdict RunSummary.tally
    | .skip => .settled .done RunSummary.tally
    | .alreadyApplied => .settled .done RunSummary.tally

def inquire (mode : Mode) (row : InboxMessageRecord J) :
    Inquiry (Query J) Query.Reply RunSummary :=
  match mode with
  | .fifoPerOrderingKey => inquireFresh row
  | .unordered =>
      .ask (.staleEventFilter row) fun
        | .stale => .settled .done RunSummary.tallyStale
        | .fresh => inquireFresh row

def routine (mode : Mode) :
    Routine (InboxMessageRecord J) (Query J) Query.Reply RunSummary where
  id := InboxMessageRecord.id
  attempts := InboxMessageRecord.attempts
  maxAttempts := InboxMessageRecord.maxAttempts
  inquire := inquire mode

theorem process_eq (mode : Mode) (row : InboxMessageRecord J) (summary : RunSummary)
    (next : RunSummary → InboxPass J) :
    process row summary next = (inquireFresh row).pursue fun verdict tally =>
      (routine mode).record row verdict fun recorded => next (tally recorded summary) := by
  simp only [process, inquireFresh, Inquiry.pursue]
  congr 1
  funext reply
  rcases reply with error | decision
  · rfl
  cases decision with
  | skip => rfl
  | alreadyApplied => rfl
  | process =>
      simp only [Inquiry.pursue]
      congr 1
      funext reply
      rcases reply with error | ⟨kind, message⟩
      · rfl
      cases kind with
      | processed => rfl
      | terminal => rfl
      | retryable =>
          simp only [HandleOutcome.verdict, Routine.record]
          congr 1
          funext action
          cases action <;> rfl

theorem deliver_eq (mode : Mode) (summary : RunSummary)
    (rows : List (InboxMessageRecord J)) :
    deliver mode summary rows = (routine mode).deliver summary rows := by
  induction rows generalizing summary with
  | nil => rfl
  | cons row rows ih =>
      cases mode with
      | fifoPerOrderingKey =>
          simp only [deliver, Routine.deliver, ← ih]
          exact process_eq .fifoPerOrderingKey row summary _
      | unordered =>
          simp only [deliver, Routine.deliver, ← ih]
          simp only [routine, inquire, Inquiry.pursue]
          congr 1
          funext reply
          rcases reply with error | decision
          · rfl
          cases decision with
          | stale => rfl
          | fresh => exact process_eq .unordered row summary _

theorem runOnce_eq (mode : Mode) :
    runOnce (J := J) mode = (routine mode).runOnce mode.query
      fun reclaimed claimed => { reclaimed, claimed } := by
  simp only [runOnce, Routine.runOnce, deliver_eq]

end Pactix.Inbox
