import Pactix.Foundation.Machine
import Pactix.Queue.Soundness
import Pactix.Worker.Service

/-!
# The calls of a store in any order

Nobody is bound to a pass here: producers, workers and operators call the operations of a
store one after the other, each with a configuration of their own and with whatever
arguments.  What a single call keeps of a table holds in every table that is reached.
-/

namespace Pactix.Worker

open Foundation Queue

variable {Caller Row Arrival Receipt Body : Type}

/-- A call of a store, with what the caller passes and what the database decides. -/
inductive Statement (Row Arrival : Type) where
  | receive (arrival : Arrival)
  | reclaimExpired (now : DateTime)
  | claimReady (query : ClaimQuery) (choices : Choices Row UUID) (now : DateTime)
  | markDone (id : UUID) (now : DateTime)
  | markRetry (now : DateTime) (id : UUID) (error : String) (availableAt : DateTime)
  | markFailed (now : DateTime) (id : UUID) (error : String)

/-- The table after a call.  An error rolls the transaction of a producer back. -/
def Store.execute (store : Store Caller Row Arrival Receipt) (caller : Caller)
    (table : List Row) : Statement Row Arrival → List Row
  | .receive arrival =>
      match store.receive arrival table with
      | .ok (after, _) => after
      | .error _ => table
  | .reclaimExpired now => (store.reclaimExpired now table).1
  | .claimReady query choices now => (store.claimReady caller query choices now table).1
  | .markDone id now => store.markDone id now table
  | .markRetry now id error availableAt =>
      (store.retryStore caller now).markRetry id error availableAt table
  | .markFailed now id error => (store.retryStore caller now).markFailed id error table

/-- One table of a database, with its callers. -/
def statements (store : Store Caller Row Arrival Receipt) :
    Machine (List Row) (Caller × Statement Row Arrival) where
  step table call := some (store.execute call.1 table call.2)

/-- A store whose two leasing calls are, by themselves, those of a queue. -/
structure Store.Leasing (store : Store Caller Row Arrival Receipt)
    (entry : Row → Entry UUID (String × String) Int Body) : Prop where
  reclaimExpired : ∀ now table,
    (store.reclaimExpired now table).1.map entry = sweep now.instant (table.map entry)
  claimReady : ∀ caller query choices now table, ∃ chosen lease,
    (store.claimReady caller query choices now table).1.map entry =
      lend chosen lease now.instant (table.map entry)

variable {entry : Row → Entry UUID (String × String) Int Body} {batchSize : Caller → Nat}
variable {leaseDuration : Caller → TimeDelta} {store : Store Caller Row Arrival Receipt}

/-- Every call keeps the entries of a table well formed. -/
theorem wellFormed_execute (refines : store.Refines entry batchSize leaseDuration)
    (leasing : store.Leasing entry) {table : List Row} (sound : WellFormed (table.map entry))
    (caller : Caller) (statement : Statement Row Arrival) :
    WellFormed ((store.execute caller table statement).map entry) := by
  cases statement with
  | receive arrival =>
      simp only [Store.execute]
      split
      next after receipt received =>
        rcases refines.receive received with same | ⟨row, added, fresh, _⟩
        · rw [same]
          exact sound
        · rw [added, List.map_append]
          exact sound.append fresh
      next => exact sound
  | reclaimExpired now =>
      rw [Store.execute, leasing.reclaimExpired]
      exact sound.sweep now.instant
  | claimReady query choices now =>
      obtain ⟨chosen, lease, claimed⟩ := leasing.claimReady caller query choices now table
      rw [Store.execute, claimed]
      exact sound.lend chosen lease now.instant
  | markDone id now =>
      rw [Store.execute, refines.markDone]
      exact forall_updateWhere (fun _ sound => sound.finish now.instant) sound
  | markRetry now id error availableAt =>
      rw [Store.execute, refines.markRetry]
      exact forall_updateWhere
        (fun _ sound => sound.retry error availableAt.instant now.instant) sound
  | markFailed now id error =>
      rw [Store.execute, refines.markFailed]
      exact forall_updateWhere (fun _ sound => sound.fail error now.instant) sound

/-- Whatever calls have been made on an empty table, its entries are well formed. -/
theorem wellFormed_of_path (refines : store.Refines entry batchSize leaseDuration)
    (leasing : store.Leasing entry)
    {permitted : List Row → Caller × Statement Row Arrival → Prop} {table : List Row}
    (path : (statements store).Path permitted [] table) : WellFormed (table.map entry) := by
  refine Machine.path_invariant (fun table => WellFormed (table.map entry)) ?_ path ?_
  · intro before call after _ stepped sound
    obtain rfl : store.execute call.1 before call.2 = after := Option.some.inj stepped
    exact wellFormed_execute refines leasing sound call.1 call.2
  · simp [WellFormed]

end Pactix.Worker
