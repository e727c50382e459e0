import Pactix.Guarantees.Leases
import Pactix.Worker.Waiting

/-!
# Fairness

How often claims can pass over a row that is ready.
-/

namespace Pactix.Outbox

open Foundation Worker

/-- An outbox claim takes the oldest ready rows. -/
theorem store_takesOldest {W J : Type} (deployment : Deployment W) :
    (store (J := J) deployment).TakesOldest OutboxMessageRecord.entry
      fun worker => (deployment.config worker).outboxBatchSize := by
  intro worker query offered choices now table distinct waiting stored ready free
  subst offered
  exact view.oldest deployment.dialect .fifo _ _ choices now distinct stored ready free

end Pactix.Outbox

namespace Pactix.Inbox

open Foundation Worker

/-- An inbox claim takes the oldest ready rows, in either mode. -/
theorem store_takesOldest {W J : Type} (deployment : Deployment W) :
    (store (J := J) deployment).TakesOldest InboxMessageRecord.entry
      fun worker => (deployment.config worker).inboxBatchSize := by
  intro worker query _ choices now table distinct waiting stored ready free
  cases query with
  | fifo => exact view.oldest deployment.dialect .fifo _ _ choices now distinct stored ready free
  | unordered =>
      exact view.oldest deployment.dialect .unordered _ _ choices now distinct stored ready free

end Pactix.Inbox

namespace Pactix.Guarantees

open Foundation Worker
open Queue (Entry)

/-- While what arrives comes after the row, the batches of the claims that pass over it fit into
the attempts that the rows ahead of it have left, and into the times that these rows are taken
back from a worker. -/
def OvertakenBounded {Worker Row Ask Summary Arrival Receipt Body : Type} {Reply : Ask → Type}
    [DecidableEq Worker] (service : Service Worker Row Ask Summary Arrival Receipt Body Reply)
    (state : State Worker Row Ask Summary Arrival Receipt Reply) : Prop :=
  ∀ row ∈ state.table,
    let id := service.store.id row
    let stamp := (service.entry row).card.stamp
    ∀ turns later, (machine service).Observed (Behind service stamp) (service.turns id stamp)
        state turns later →
      ((turns.map service.cost).sum : Nat) ≤
        ((state.table.map service.entry).map (Entry.weight id stamp)).sum +
          turns.count .reclaimed

/-- No row of a store is passed over without end. -/
theorem overtaking_bounded {Worker J : Type} [DecidableEq Worker] (deployment : Deployment Worker)
    (mode : Worker → Inbox.Mode) (clock : Int) :
    (let service := Outbox.service (J := J) deployment
      ∀ state, (machine service).Path Current (.initial clock) state →
        OvertakenBounded service state) ∧
    (let service := Inbox.service (J := J) deployment mode
      ∀ state, (machine service).Path Current (.initial clock) state →
        OvertakenBounded service state) :=
  ⟨fun _ path _ stored _ _ observed =>
      overtaken_of_observed (Outbox.store_takesOldest deployment) path stored observed,
    fun _ path _ stored _ _ observed =>
      overtaken_of_observed (Inbox.store_takesOldest deployment) path stored observed⟩

/-- Batches of one row. -/
def narrow : Deployment Bool :=
  { deployment with
    config := fun _ => { twoAttempts with outboxBatchSize := 1, inboxBatchSize := 1 } }

abbrev narrowOutbox := Outbox.service (J := Unit) narrow

abbrev narrowInbox := Inbox.service (J := Unit) narrow fun (_ : Bool) => .unordered

/-- An order, and a refund that has arrived later. -/
def queued :=
  ((machine narrowOutbox).replay Current (.initial 0)
    [appending 1 0 m1, appending 2 1 (envelope "m3" "refund")]).get (by decide +kernel)

def delivered :=
  ((machine narrowInbox).replay Current (.initial 0)
    [receiving 1 0 m1, receiving 2 1 refund "till"]).get (by decide +kernel)

/-- The order is claimed before the refund, and once more after it has failed. -/
def passingOverRun : List OutboxLabel :=
  [.spawn false, publishing false 2, publishing false 2, publishing false 3 (.retryable "busy"),
    publishing false 3, .spawn true, publishing true 9, publishing true 9]

def passingOverHandlerRun : List InboxLabel :=
  [.spawn false, handling false 2, handling false 2, .spawn true, handling true 40,
    handling true 40]

def passedOver :=
  (Machine.replayNoting (machine narrowOutbox) (Behind narrowOutbox second)
    (narrowOutbox.turns 2 second) [] queued passingOverRun).get (by decide +kernel)

def passedOverHandler :=
  (Machine.replayNoting (machine narrowInbox) (Behind narrowInbox second)
    (narrowInbox.turns 2 second) [] delivered passingOverHandlerRun).get (by decide +kernel)

theorem overtaking_bounded_sample :
    (passedOver.1 = [.passedOver false, .passedOver true] ∧ OvertakenBounded narrowOutbox queued) ∧
    (passedOverHandler.1 = [.passedOver false, .reclaimed, .passedOver true] ∧
      OvertakenBounded narrowInbox delivered) := by
  have claim := overtaking_bounded (J := Unit) narrow (fun (_ : Bool) => .unordered) 0
  have path : (machine narrowOutbox).Path Current (.initial 0) queued := Machine.path_replay ..
  have handlerPath : (machine narrowInbox).Path Current (.initial 0) delivered :=
    Machine.path_replay ..
  exact ⟨⟨by decide +kernel, claim.1 _ path⟩, ⟨by decide +kernel, claim.2 _ handlerPath⟩⟩

end Pactix.Guarantees
