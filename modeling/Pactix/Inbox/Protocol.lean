import Mathlib.Data.List.Basic
import Pactix.Foundation.Protocol
import Pactix.Inbox.Runner

/-!
# The protocol of an inbox pass

The stages of `run_once`: which call may come next, about which record, and what is counted.
Unordered runners ask the stale filter before anything else; no runner asks the handler
unless the idempotency hook has just said so; an outcome is recorded before the next record
is looked at.
-/

namespace Pactix.Inbox

open Foundation
open Queue (Verdict)
open Worker

variable {J : Type}

/-- A call of an inbox pass with its answer. -/
abbrev InboxExchange (J : Type) :=
  Exchange (Call (Query J)) (Answer (InboxMessageRecord J) Query.Reply)

/-- Where a pass stands: what it has counted, the record it is at, and those after it. -/
inductive Stage (J : Type) where
  | started
  | read (now : DateTime)
  | working (summary : RunSummary) (rows : List (InboxMessageRecord J))
  | fresh (summary : RunSummary) (row : InboxMessageRecord J) (rows : List (InboxMessageRecord J))
  | granted (summary : RunSummary) (row : InboxMessageRecord J)
      (rows : List (InboxMessageRecord J))
  | decided (summary : RunSummary) (row : InboxMessageRecord J) (verdict : Verdict)
      (rows : List (InboxMessageRecord J))
  | raised (error : Error) (row : InboxMessageRecord J) (rows : List (InboxMessageRecord J))

namespace Stage

/-- The stage at which the idempotency hook is asked. -/
def unapplied (mode : Mode) (summary : RunSummary) (row : InboxMessageRecord J)
    (rows : List (InboxMessageRecord J)) : Stage J :=
  match mode with
  | .fifoPerOrderingKey => .working summary (row :: rows)
  | .unordered => .fresh summary row rows

/-- The claimed records without a recorded outcome. -/
def unrecorded : Stage J → List (InboxMessageRecord J)
  | .started | .read _ => []
  | .working _ rows => rows
  | .fresh _ row rows | .granted _ row rows | .decided _ row _ rows | .raised _ row rows =>
      row :: rows

/-- The claimed records that may still be handled. -/
def unhandled : Stage J → List (InboxMessageRecord J)
  | .started | .read _ => []
  | .working _ rows | .decided _ _ _ rows | .raised _ _ rows => rows
  | .fresh _ row rows | .granted _ row rows => row :: rows

/-- A pass ends with its summary when nothing is left to deliver, or with what a callback
has raised. -/
def Ends : Stage J → Except Error RunSummary → Prop
  | .working summary [], .ok result => result = summary
  | .raised error _ _, .error thrown => thrown = error
  | _, _ => False

end Stage

/-- One call of a pass, and the stage after it. -/
inductive Next (mode : Mode) : Stage J → InboxExchange J → Stage J → Prop where
  | utcnow (now : DateTime) : Next mode .started ⟨.utcnow, now⟩ (.read now)
  | claim (now : DateTime) (reclaimed : Nat) (rows : List (InboxMessageRecord J)) :
      Next mode (.read now) ⟨.reclaimAndClaim mode.query now, (reclaimed, rows)⟩
        (.working { reclaimed, claimed := rows.length } rows)
  | stale (summary row rows) (unordered : mode = .unordered) :
      Next mode (.working summary (row :: rows)) ⟨.ask (.staleEventFilter row), .ok .stale⟩
        (.decided { summary with staleSkipped := summary.staleSkipped + 1 } row .done rows)
  | fresh (summary row rows) (unordered : mode = .unordered) :
      Next mode (.working summary (row :: rows)) ⟨.ask (.staleEventFilter row), .ok .fresh⟩
        (.fresh summary row rows)
  | filterRaised (summary row rows error) (unordered : mode = .unordered) :
      Next mode (.working summary (row :: rows)) ⟨.ask (.staleEventFilter row), .error error⟩
        (.raised error row rows)
  | process (summary row rows) :
      Next mode (.unapplied mode summary row rows) ⟨.ask (.idempotencyHook row), .ok .process⟩
        (.granted summary row rows)
  | skip (summary row rows decision) (refused : decision ≠ .process) :
      Next mode (.unapplied mode summary row rows) ⟨.ask (.idempotencyHook row), .ok decision⟩
        (.decided summary row .done rows)
  | hookRaised (summary row rows error) :
      Next mode (.unapplied mode summary row rows) ⟨.ask (.idempotencyHook row), .error error⟩
        (.raised error row rows)
  | handled (summary row rows outcome) :
      Next mode (.granted summary row rows) ⟨.ask (.handler row), .ok outcome⟩
        (.decided summary row outcome.verdict rows)
  | handlerRaised (summary row rows error) :
      Next mode (.granted summary row rows) ⟨.ask (.handler row), .error error⟩
        (.raised error row rows)
  | processed (summary row rows) :
      Next mode (.decided summary row .done rows) ⟨.markDone row.id, ()⟩
        (.working { summary with processed := summary.processed + 1 } rows)
  | retryScheduled (summary row rows message) :
      Next mode (.decided summary row (.retryable message) rows)
        ⟨.handleRetryableFailure row.id row.attempts row.maxAttempts message, .retryScheduled⟩
        (.working { summary with retryScheduled := summary.retryScheduled + 1 } rows)
  | exhausted (summary row rows message) :
      Next mode (.decided summary row (.retryable message) rows)
        ⟨.handleRetryableFailure row.id row.attempts row.maxAttempts message, .failed⟩
        (.working { summary with failed := summary.failed + 1 } rows)
  | failed (summary row rows message) :
      Next mode (.decided summary row (.terminal message) rows) ⟨.markFailed row.id message, ()⟩
        (.working { summary with failed := summary.failed + 1 } rows)

/-- The protocol of a pass in a mode. -/
def protocol (mode : Mode) : Protocol (Call (Query J))
    (Answer (InboxMessageRecord J) Query.Reply) (Except Error RunSummary) (Stage J) where
  Next := Next mode
  Ends := Stage.Ends

/-! ## The runner keeps to the protocol -/

variable {mode : Mode}

/-- From the idempotency hook on. -/
theorem keeps_process {row : InboxMessageRecord J} {rows : List (InboxMessageRecord J)}
    {next : RunSummary → InboxPass J}
    (rest : ∀ summary, (protocol mode).Keeps (next summary) (.working summary rows))
    (summary : RunSummary) :
    (protocol mode).Keeps (process row summary next) (.unapplied mode summary row rows) := by
  intro reply
  cases reply with
  | error error => exact ⟨_, .hookRaised summary row rows error, rfl⟩
  | ok decision =>
      cases decision with
      | process =>
          refine ⟨_, .process summary row rows, fun answer => ?_⟩
          cases answer with
          | error error => exact ⟨_, .handlerRaised summary row rows error, rfl⟩
          | ok outcome =>
              refine ⟨_, .handled summary row rows outcome, ?_⟩
              obtain ⟨kind, message⟩ := outcome
              cases kind with
              | processed => exact fun _ => ⟨_, .processed summary row rows, rest _⟩
              | terminal => exact fun _ => ⟨_, .failed summary row rows _, rest _⟩
              | retryable =>
                  intro action
                  cases action with
                  | retryScheduled => exact ⟨_, .retryScheduled summary row rows _, rest _⟩
                  | failed => exact ⟨_, .exhausted summary row rows _, rest _⟩
      | skip =>
          exact ⟨_, .skip summary row rows .skip nofun,
            fun _ => ⟨_, .processed summary row rows, rest _⟩⟩
      | alreadyApplied =>
          exact ⟨_, .skip summary row rows .alreadyApplied nofun,
            fun _ => ⟨_, .processed summary row rows, rest _⟩⟩

theorem keeps_deliver (mode : Mode) (summary : RunSummary) (rows : List (InboxMessageRecord J)) :
    (protocol mode).Keeps (deliver mode summary rows) (.working summary rows) := by
  induction rows generalizing summary with
  | nil => rfl
  | cons row rows ih =>
      cases mode with
      | fifoPerOrderingKey => exact keeps_process ih summary
      | unordered =>
          intro reply
          cases reply with
          | error error => exact ⟨_, .filterRaised summary row rows error rfl, rfl⟩
          | ok decision =>
              cases decision with
              | stale =>
                  exact ⟨_, .stale summary row rows rfl,
                    fun _ => ⟨_, .processed _ row rows, ih _⟩⟩
              | fresh => exact ⟨_, .fresh summary row rows rfl, keeps_process ih summary⟩

theorem keeps_runOnce (mode : Mode) :
    (protocol mode).Keeps (runOnce (J := J) mode) .started :=
  fun now => ⟨_, .utcnow now, fun answer =>
    ⟨_, .claim now answer.1 answer.2, keeps_deliver mode _ answer.2⟩⟩

/-! ## What the calls of a pass amount to -/

/-- The records that a pass has claimed. -/
def claimedRecords (calls : List (InboxExchange J)) : List (InboxMessageRecord J) :=
  calls.flatMap fun
    | ⟨.reclaimAndClaim _ _, (_, rows)⟩ => rows
    | _ => []

/-- The ids for which a pass has recorded outcomes. -/
def recordedIds (calls : List (InboxExchange J)) : List UUID :=
  calls.filterMap fun exchange => exchange.request.recordsFor

/-- The records that a pass has given to the handler. -/
def handledRecords (calls : List (InboxExchange J)) : List (InboxMessageRecord J) :=
  calls.filterMap fun exchange =>
    match exchange.request with
    | .ask (.handler row) => some row
    | _ => none

@[simp] theorem claimedRecords_append (calls later : List (InboxExchange J)) :
    claimedRecords (calls ++ later) = claimedRecords calls ++ claimedRecords later :=
  List.flatMap_append

@[simp] theorem recordedIds_append (calls later : List (InboxExchange J)) :
    recordedIds (calls ++ later) = recordedIds calls ++ recordedIds later :=
  List.filterMap_append

@[simp] theorem handledRecords_append (calls later : List (InboxExchange J)) :
    handledRecords (calls ++ later) = handledRecords calls ++ handledRecords later :=
  List.filterMap_append

/-- One call records an outcome for the first of the unrecorded records, or for none. -/
theorem Next.recordedIds {before after : Stage J} {exchange : InboxExchange J}
    (next : Next mode before exchange after) :
    Inbox.recordedIds [exchange] ++ after.unrecorded.map InboxMessageRecord.id =
      (before.unrecorded ++ claimedRecords [exchange]).map InboxMessageRecord.id := by
  cases next with
  | utcnow | claim | stale | fresh | filterRaised | handled | handlerRaised | processed
  | retryScheduled | exhausted | failed =>
      simp [Inbox.recordedIds, claimedRecords, Stage.unrecorded, Call.recordsFor]
  | process | skip | hookRaised =>
      cases mode <;>
        simp [Inbox.recordedIds, claimedRecords, Stage.unapplied, Stage.unrecorded,
          Call.recordsFor]

/-- One call gives the handler the first of the unhandled records, or none. -/
theorem Next.handledRecords {before after : Stage J} {exchange : InboxExchange J}
    (next : Next mode before exchange after) :
    (Inbox.handledRecords [exchange] ++ after.unhandled).Sublist
      (before.unhandled ++ claimedRecords [exchange]) := by
  cases next with
  | utcnow | claim | stale | fresh | filterRaised | handled | handlerRaised | processed
  | retryScheduled | exhausted | failed =>
      simp [Inbox.handledRecords, claimedRecords, Stage.unhandled]
  | process | skip | hookRaised =>
      cases mode <;>
        simp [Inbox.handledRecords, claimedRecords, Stage.unapplied, Stage.unhandled]

/-- Outcomes are recorded in the order of the claim, and none is left out. -/
theorem recordedIds_of_runs {calls : List (InboxExchange J)} {stage : Stage J}
    (runs : (protocol mode).Runs .started calls stage) :
    recordedIds calls ++ stage.unrecorded.map InboxMessageRecord.id =
      (claimedRecords calls).map InboxMessageRecord.id := by
  induction runs with
  | refl => rfl
  | tail _ next ih =>
      rw [recordedIds_append, List.append_assoc, Next.recordedIds next, List.map_append,
        ← List.append_assoc, ih, claimedRecords_append, List.map_append]

/-- The handler is given claimed records in the order of the claim, each of them at most
once. -/
theorem handledRecords_of_runs {calls : List (InboxExchange J)} {stage : Stage J}
    (runs : (protocol mode).Runs .started calls stage) :
    (handledRecords calls ++ stage.unhandled).Sublist (claimedRecords calls) := by
  induction runs with
  | refl => exact .slnil
  | tail _ next ih =>
      rw [handledRecords_append, List.append_assoc, claimedRecords_append]
      apply ((Next.handledRecords next).append_left _).trans
      rw [← List.append_assoc]
      exact ih.append_right _

/-- What has to be answered directly before the handler is given a record. -/
def approvals (mode : Mode) (row : InboxMessageRecord J) : List (InboxExchange J) :=
  match mode with
  | .fifoPerOrderingKey => [⟨.ask (.idempotencyHook row), .ok .process⟩]
  | .unordered =>
      [⟨.ask (.staleEventFilter row), .ok .fresh⟩, ⟨.ask (.idempotencyHook row), .ok .process⟩]

/-- What the last calls have to be at a stage. -/
def Stage.Preceded (mode : Mode) (calls : List (InboxExchange J)) : Stage J → Prop
  | .fresh _ row _ => [⟨.ask (.staleEventFilter row), .ok .fresh⟩] <:+ calls
  | .granted _ row _ => approvals mode row <:+ calls
  | _ => True

theorem preceded_of_runs {calls : List (InboxExchange J)} {stage : Stage J}
    (runs : (protocol mode).Runs .started calls stage) : stage.Preceded mode calls := by
  induction runs with
  | refl => trivial
  | @tail calls _ _ _ _ next ih =>
      cases next with
      | utcnow | claim | stale | filterRaised | handled | handlerRaised | processed
      | retryScheduled | exhausted | failed | skip | hookRaised => trivial
      | fresh => exact List.suffix_append calls _
      | process summary row rows =>
          cases mode with
          | fifoPerOrderingKey => exact List.suffix_append calls _
          | unordered =>
              obtain ⟨earlier, asked⟩ := ih
              rw [← asked, List.append_assoc]
              exact List.suffix_append earlier _

/-- The handler is asked about a record directly after the callbacks that let it pass. -/
theorem approved_of_runs {calls : List (InboxExchange J)} {stage : Stage J}
    (runs : (protocol mode).Runs .started calls stage) {earlier : List (InboxExchange J)}
    {row : InboxMessageRecord J} {reply : Except Error HandleOutcome}
    (asked : earlier ++ [⟨.ask (.handler row), reply⟩] <+: calls) :
    approvals mode row <:+ earlier := by
  induction runs with
  | refl => simp at asked
  | tail before next ih =>
      rcases List.prefix_concat_iff.mp asked with last | within
      · obtain ⟨rfl, same⟩ := List.append_inj' last rfl
        obtain rfl := (List.singleton_inj.mp same).symm
        have preceded := preceded_of_runs before
        cases next with
        | handled | handlerRaised => exact preceded
      · exact ih within

end Pactix.Inbox
