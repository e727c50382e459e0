import Pactix.Foundation.Program
import Pactix.Leasing.Columns
import Pactix.Queue.Core
import Pactix.Retry

/-!
# Passes of a worker

`run_once` of either runner is a program over the calls below.  Both runners work
through a claimed batch in the same way: for every record, callbacks are asked
until a verdict is reached, and the verdict is recorded before the next record is
looked at.
-/

namespace Pactix.Worker

open Foundation
open Queue (Verdict)

/-- What a pass asks of its surroundings.  Each transaction is one call. -/
inductive Call (Ask : Type) where
  | utcnow
  /-- `reclaim_expired` and one of the claim queries, in one transaction. -/
  | reclaimAndClaim (query : ClaimQuery) (now : DateTime)
  /-- An application callback, outside of any transaction. -/
  | ask (query : Ask)
  /-- `mark_published` or `mark_processed`, with a clock reading of its own. -/
  | markDone (id : UUID)
  | handleRetryableFailure (id : UUID) (attempts maxAttempts : Int) (error : String)
  | markFailed (id : UUID) (error : String)

variable {Row Ask Summary : Type} {Reply : Ask → Type}

/-- What the calls return.  A callback returns a reply or raises. -/
abbrev Answer (Row : Type) (Reply : Ask → Type) : Call Ask → Type
  | .utcnow => DateTime
  | .reclaimAndClaim _ _ => Nat × List Row
  | .ask query => Except Error (Reply query)
  | .markDone _ => Unit
  | .handleRetryableFailure _ _ _ _ => RetryAction
  | .markFailed _ _ => Unit

/-- The row for which a call records an outcome. -/
def Call.recordsFor : Call Ask → Option UUID
  | .utcnow => none
  | .reclaimAndClaim _ _ => none
  | .ask _ => none
  | .markDone id => some id
  | .handleRetryableFailure id _ _ _ => some id
  | .markFailed id _ => some id

/-- The callback that a call asks. -/
def Call.asked : Call Ask → Option Ask
  | .utcnow => none
  | .reclaimAndClaim _ _ => none
  | .ask query => some query
  | .markDone _ => none
  | .handleRetryableFailure _ _ _ _ => none
  | .markFailed _ _ => none

theorem Call.asked_eq_some {request : Call Ask} {query : Ask} :
    request.asked = some query ↔ request = .ask query := by
  cases request <;> simp [asked]

/-- The row for which a call counts a failed attempt. -/
def Call.fails : Call Ask → Option UUID
  | .utcnow => none
  | .reclaimAndClaim _ _ => none
  | .ask _ => none
  | .markDone _ => none
  | .handleRetryableFailure id _ _ _ => some id
  | .markFailed id _ => some id

theorem Call.recordsFor_of_fails {request : Call Ask} {id : UUID}
    (fails : request.fails = some id) : request.recordsFor = some id := by
  cases request <;> simp_all [Call.fails, Call.recordsFor]

/-- A pass ends with its summary or raises. -/
abbrev Pass (Row Ask : Type) (Reply : Ask → Type) (Summary : Type) :=
  Program (Call Ask) (Answer Row Reply) (Except Error Summary)

/-- How a recorded verdict is counted. -/
inductive Recorded where
  | done
  | retryScheduled
  | failed
  deriving DecidableEq, Repr

/-- The callbacks that are asked about one record, up to a verdict.  The verdict
comes with the way it is counted. -/
inductive Inquiry (Ask : Type) (Reply : Ask → Type) (Summary : Type) where
  | settled (verdict : Verdict) (tally : Recorded → Summary → Summary)
  | ask (query : Ask) (next : Reply query → Inquiry Ask Reply Summary)

namespace Inquiry

/-- Ask the callbacks.  An exception of one of them ends the pass. -/
def pursue (continuation : Verdict → (Recorded → Summary → Summary) →
      Pass Row Ask Reply Summary) :
    Inquiry Ask Reply Summary → Pass Row Ask Reply Summary
  | .settled verdict tally => continuation verdict tally
  | .ask query next => .call (.ask query) fun
      | .error error => .done (.error error)
      | .ok reply => (next reply).pursue continuation

/-- What the callbacks come to when they behave as `reply` says. -/
def outcome (reply : (query : Ask) → Except Error (Reply query)) :
    Inquiry Ask Reply Summary → Except Error Verdict
  | .settled verdict _ => .ok verdict
  | .ask query next =>
      match reply query with
      | .error error => .error error
      | .ok answer => (next answer).outcome reply

/-- The callbacks that are asked when they behave as `reply` says. -/
def asked (reply : (query : Ask) → Except Error (Reply query)) :
    Inquiry Ask Reply Summary → List Ask
  | .settled _ _ => []
  | .ask query next =>
      match reply query with
      | .error _ => [query]
      | .ok answer => query :: (next answer).asked reply

/-- Every callback is one that `About` allows, and the verdict is the one that
`judge` reads off the last reply. -/
def Sound (judge : (query : Ask) → Reply query → Option Verdict) (About : Ask → Prop) :
    Option Verdict → Inquiry Ask Reply Summary → Prop
  | decided, .settled verdict _ => decided = some verdict
  | decided, .ask query next => decided = none ∧ About query ∧
      ∀ reply, (next reply).Sound judge About (judge query reply)

end Inquiry

/-- What a runner does with the records of a batch. -/
structure Routine (Row Ask : Type) (Reply : Ask → Type) (Summary : Type) where
  id : Row → UUID
  attempts : Row → Int
  maxAttempts : Row → Int
  inquire : Row → Inquiry Ask Reply Summary

namespace Routine

variable (routine : Routine Row Ask Reply Summary)

/-- The call that records a verdict about a record. -/
def recording (row : Row) : Verdict → Call Ask
  | .done => .markDone (routine.id row)
  | .retryable message =>
      .handleRetryableFailure (routine.id row) (routine.attempts row)
        (routine.maxAttempts row) message
  | .terminal message => .markFailed (routine.id row) message

/-- Record a verdict about a record. -/
def record (row : Row) (verdict : Verdict)
    (continuation : Recorded → Pass Row Ask Reply Summary) : Pass Row Ask Reply Summary :=
  match verdict with
  | .done => .call (.markDone (routine.id row)) fun _ => continuation .done
  | .retryable message =>
      .call (.handleRetryableFailure (routine.id row) (routine.attempts row)
        (routine.maxAttempts row) message) fun
        | .retryScheduled => continuation .retryScheduled
        | .failed => continuation .failed
  | .terminal message =>
      .call (.markFailed (routine.id row) message) fun _ => continuation .failed

/-- Work through a batch. -/
def deliver (summary : Summary) : List Row → Pass Row Ask Reply Summary
  | [] => .done (.ok summary)
  | row :: rows =>
      (routine.inquire row).pursue fun verdict tally =>
        routine.record row verdict fun recorded => deliver (tally recorded summary) rows

/-- One pass: read the clock, reclaim and claim, work through the batch. -/
def runOnce (query : ClaimQuery) (opening : Nat → Nat → Summary) :
    Pass Row Ask Reply Summary :=
  .call .utcnow fun now =>
    .call (.reclaimAndClaim query now) fun (reclaimed, rows) =>
      routine.deliver (opening reclaimed rows.length) rows

end Routine

end Pactix.Worker
