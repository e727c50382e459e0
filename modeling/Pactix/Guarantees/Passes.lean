import Pactix.Guarantees.Leases
import Pactix.Inbox.Protocol
import Pactix.Worker.Sessions

/-!
# Passes among others

What the calls of one pass are while other workers, producers and crashes come in between.
-/

namespace Pactix.Guarantees

open Foundation Worker
open Inbox (InboxMessageRecord HandleOutcome InboxExchange Mode RunSummary Stage approvals
  claimedRecords handledRecords protocol recordedIds)

/-! ## The protocol of an inbox pass -/

/-- The calls of a pass are a run of the protocol, and what is left of its program keeps to
it.  Outcomes are recorded in the order of the claim, and no claimed record is given to the
handler twice, or without the approvals of its mode directly before. -/
def KeepsProtocol {J : Type} (mode : Mode) (calls : List (InboxExchange J))
    (program : Inbox.InboxPass J) : Prop :=
  ∃ stage : Stage J, (protocol mode).Runs .started calls stage ∧
    (protocol mode).Keeps program stage ∧
    recordedIds calls ++ stage.unrecorded.map (·.id) = (claimedRecords calls).map (·.id) ∧
    (handledRecords calls).Sublist (claimedRecords calls) ∧
    ∀ (earlier : List (InboxExchange J)) (row : InboxMessageRecord J)
      (reply : Except Error HandleOutcome),
      earlier ++ [⟨.ask (.handler row), reply⟩] <+: calls → approvals mode row <:+ earlier

/-- Whatever happens in between, every pass of an inbox worker keeps to the protocol of its
mode. -/
theorem inbox_passes_keep_protocol {Worker J : Type} [DecidableEq Worker]
    (deployment : Deployment Worker) (mode : Worker → Mode) (clock : Int)
    {notes : List (Note Worker (InboxMessageRecord J) (Inbox.Query J) Inbox.Query.Reply)}
    {state : State Worker (InboxMessageRecord J) (Inbox.Query J) RunSummary (Inbox.Arrival J)
      (Inbox.ReceiveOutcome J) Inbox.Query.Reply}
    (logged : Logged (Inbox.service deployment mode) clock notes state)
    {worker : Worker} {program : Inbox.InboxPass J}
    (running : (state.process worker).program = some program) :
    KeepsProtocol (mode worker) (session worker notes) program := by
  obtain ⟨stage, runs, keeps⟩ :=
    Protocol.runs_of_reaches (Inbox.keeps_runOnce (mode worker)) (reaches_session logged running)
  have handled := Inbox.handledRecords_of_runs runs
  exact ⟨stage, runs, keeps, Inbox.recordedIds_of_runs runs,
    (List.sublist_append_left _ _).trans handled,
    fun _ _ _ asked => Inbox.approved_of_runs runs asked⟩

/-- A FIFO and an unordered worker. -/
def mixed (worker : Bool) : Mode := if worker then .unordered else .fifoPerOrderingKey

abbrev mixedInbox := Inbox.service (J := Unit) deployment mixed

/-- Each of them delivers a message, and the unordered one is not yet done with it. -/
def mixedRun : List InboxLabel :=
  [receiving 1 0 m1, .spawn true, handling true 1, handling true 1, receiving 2 1 refund "till",
    handling true 2, .spawn false, handling false 2, handling true 2, handling false 2,
    handling false 3, handling false 3 (.retryable "busy"), handling true 3, handling false 4]

def mixedLog :=
  (Machine.replayNoting (machine mixedInbox) Machine.Free mixedInbox.log [] (.initial 0)
    mixedRun).get (by decide +kernel)

theorem inbox_passes_keep_protocol_sample :
    (handledRecords (session true mixedLog.1)).map (·.messageId) = ["m1"] ∧
      recordedIds (session true mixedLog.1) = [] ∧
      recordedIds (session false mixedLog.1) = [2] ∧
      ∃ program, (mixedLog.2.process true).program = some program ∧
        KeepsProtocol .unordered (session true mixedLog.1) program := by
  have logged := (machine mixedInbox).observed_replay Machine.Free mixedInbox.log (.initial 0)
    mixedRun (by decide +kernel)
  have running : (mixedLog.2.process true).program.isSome = true := by decide +kernel
  refine ⟨by decide +kernel, by decide +kernel, by decide +kernel, _,
    (Option.some_get running).symm, ?_⟩
  exact inbox_passes_keep_protocol (J := Unit) deployment mixed 0 logged
    (Option.some_get running).symm

end Pactix.Guarantees
