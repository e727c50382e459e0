import Pactix.Guarantees.Outcomes
import Pactix.Worker.Failures

/-!
# What attempts stand for

The attempts that a row counts and the error that it carries, against the replies of the
callbacks.
-/

namespace Pactix.Guarantees

open Foundation Worker
open Queue (Verdict)
open Outbox (OutboxMessageRecord PublishOutcome)
open Inbox (HandleOutcome InboxMessageRecord ReceiveOutcome)

/-- A publisher has failed the row with the id. -/
def publishFailed {Worker J : Type} (id : UUID)
    (call : Consultation Worker (OutboxMessageRecord J) fun _ => PublishOutcome) : Bool :=
  decide (call.query.id = id ∧ call.reply.kind ≠ .published)

/-- The handler has failed the row with the id. -/
def handlerFailed {Worker J : Type} (id : UUID) :
    Consultation Worker (Inbox.Query J) Inbox.Query.Reply → Bool
  | ⟨_, .handler record, outcome⟩ => decide (record.id = id ∧ outcome.kind ≠ .processed)
  | ⟨_, .staleEventFilter _, _⟩ => false
  | ⟨_, .idempotencyHook _, _⟩ => false

/-- Every row has at most as many attempts as publishers have failed it, and its error is
what one of them has said. -/
def PublishesBacked {Worker J : Type}
    (state : State Worker (OutboxMessageRecord J) (OutboxMessageRecord J) Outbox.RunSummary
      (Outbox.Arrival J) (OutboxMessageRecord J) fun _ => PublishOutcome) : Prop :=
  ∀ row ∈ state.table, row.attempts ≤ state.consulted.countP (publishFailed row.id) ∧
    ∀ message, row.lastError = some message → ∃ call ∈ state.consulted,
      call.query.content = row.content ∧ call.reply.kind ≠ .published ∧
        call.reply.message.getD "" = message

/-- Every row has at most as many attempts as the handler has failed it, and its error is
what the handler has said. -/
def HandlesBacked {Worker J : Type}
    (state : State Worker (InboxMessageRecord J) (Inbox.Query J) Inbox.RunSummary
      (Inbox.Arrival J) (ReceiveOutcome J) Inbox.Query.Reply) : Prop :=
  ∀ row ∈ state.table, row.attempts ≤ state.consulted.countP (handlerFailed row.id) ∧
    ∀ message, row.lastError = some message → ∃ (worker : Worker)
      (record : InboxMessageRecord J) (outcome : HandleOutcome),
        ⟨worker, .handler record, outcome⟩ ∈ state.consulted ∧
          record.content = row.content ∧ outcome.kind ≠ .processed ∧
            outcome.message.getD "" = message

theorem publishFailed_eq {Worker J : Type} (deployment : Deployment Worker) (id : UUID) :
    (Outbox.service (J := J) deployment).failed id = publishFailed id := by
  funext ⟨worker, record, kind, message⟩
  rw [Bool.eq_iff_iff, failed_eq_true]
  cases kind <;> simp [publishFailed, Outbox.service, Outbox.store, PublishOutcome.verdict,
    Verdict.failure]

theorem handlerFailed_eq {Worker J : Type} (deployment : Deployment Worker)
    (mode : Worker → Inbox.Mode) (id : UUID) :
    (Inbox.service (J := J) deployment mode).failed id = handlerFailed id := by
  funext ⟨worker, query, reply⟩
  cases query with
  | handler record =>
      obtain ⟨kind, message⟩ := reply
      rw [Bool.eq_iff_iff, failed_eq_true]
      cases kind <;> simp [handlerFailed, Inbox.service, Inbox.store,
        Inbox.Query.record, Inbox.Query.judge, HandleOutcome.verdict, Verdict.failure]
  | staleEventFilter record | idempotencyHook record =>
      rw [Bool.eq_iff_iff, failed_eq_true]
      cases reply <;> simp [handlerFailed, Inbox.service, Inbox.Query.judge, Verdict.failure]

theorem publishesBacked_of_path {Worker J : Type} [DecidableEq Worker]
    {deployment : Deployment Worker} {clock : Int} {state}
    (path : (machine (Outbox.service (J := J) deployment)).Path Machine.Free
      (.initial clock) state) : PublishesBacked state := by
  intro row stored
  obtain ⟨attempts, told⟩ := attempts_of_path path stored
  rw [publishFailed_eq] at attempts
  refine ⟨attempts, fun message failed => ?_⟩
  obtain ⟨call, consulted, card, judged⟩ := told message failed
  refine ⟨call, consulted, congrArg Queue.Card.body card, ?_⟩
  obtain ⟨worker, record, kind, said⟩ := call
  cases kind with
  | published => simp [Outbox.service, PublishOutcome.verdict, Verdict.failure] at judged
  | retryable | terminal =>
      simpa [Outbox.service, PublishOutcome.verdict, Verdict.failure] using judged

theorem handlesBacked_of_path {Worker J : Type} [DecidableEq Worker]
    {deployment : Deployment Worker} {mode : Worker → Inbox.Mode} {clock : Int} {state}
    (path : (machine (Inbox.service (J := J) deployment mode)).Path Machine.Free
      (.initial clock) state) : HandlesBacked state := by
  intro row stored
  obtain ⟨attempts, told⟩ := attempts_of_path path stored
  rw [handlerFailed_eq] at attempts
  refine ⟨attempts, fun message failed => ?_⟩
  obtain ⟨⟨worker, query, reply⟩, consulted, card, judged⟩ := told message failed
  cases query with
  | handler record =>
      refine ⟨worker, record, reply, consulted, congrArg Queue.Card.body card, ?_⟩
      obtain ⟨kind, said⟩ := reply
      cases kind with
      | processed =>
          simp [Inbox.service, Inbox.Query.judge, HandleOutcome.verdict, Verdict.failure] at judged
      | retryable | terminal =>
          simpa [Inbox.service, Inbox.Query.judge, HandleOutcome.verdict, Verdict.failure]
            using judged
  | staleEventFilter record | idempotencyHook record =>
      cases reply <;> simp [Inbox.service, Inbox.Query.judge, Verdict.failure] at judged

/-- Every attempt of a row, in any run, was a callback that failed it. -/
theorem attempts_backed {Worker J : Type} [DecidableEq Worker] (deployment : Deployment Worker)
    (mode : Worker → Inbox.Mode) (clock : Int) :
    (∀ state, (machine (Outbox.service (J := J) deployment)).Path Machine.Free
        (.initial clock) state → PublishesBacked state) ∧
    (∀ state, (machine (Inbox.service (J := J) deployment mode)).Path Machine.Free
        (.initial clock) state → HandlesBacked state) :=
  ⟨fun _ => publishesBacked_of_path, fun _ => handlesBacked_of_path⟩

/-- Two late workers have failed the row, and one of them has not recorded it. -/
def lateFailures :=
  ((machine outbox).replay Machine.Free (.initial 0) [appending 1 0 m1, .spawn false,
    publishing false 1, publishing false 2, .spawn true, publishing true 40,
    publishing true 41, publishing false 42 (.retryable "busy"), publishing false 43,
    publishing true 44 (.terminal "gone")]).get (by decide +kernel)

theorem attempts_backed_sample :
    (lateFailures.table.map fun row => (row.attempts, row.lastError)) = [(1, some "busy")] ∧
      lateFailures.consulted.countP (publishFailed 1) = 2 ∧ PublishesBacked lateFailures ∧
      failingHandler.consulted.countP (handlerFailed 1) = 1 ∧ HandlesBacked failingHandler := by
  have claim := attempts_backed (J := Unit) deployment
    (fun (_ : Bool) => .fifoPerOrderingKey) 0
  have path : (machine outbox).Path Machine.Free (.initial 0) lateFailures :=
    Machine.path_replay ..
  have handlerPath : (machine inbox).Path Machine.Free (.initial 0) failingHandler :=
    Machine.path_mono (fun _ _ _ => trivial) (Machine.path_replay (machine inbox) Current ..)
  exact ⟨by decide +kernel, by decide +kernel, claim.1 _ path, by decide +kernel,
    claim.2 _ handlerPath⟩

end Pactix.Guarantees
