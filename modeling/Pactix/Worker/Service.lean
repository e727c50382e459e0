import Pactix.Leasing.View
import Pactix.Queue.Core
import Pactix.Worker.Pass

/-!
# Stores and services

A store is what a worker's calls act on.  It refines a leased queue when its
operations, seen through a reading of rows as entries, are those of the queue.  A
service is a store together with the pass that its workers run and the proofs that
both behave as described here; outbox and inbox are the two services.
-/

namespace Pactix.Worker

open Foundation Queue

variable {Worker Row Ask Summary Arrival Receipt Body : Type} {Reply : Ask → Type}

/-- What workers are deployed with: each has a configuration of its own.  `floatMax` is the
largest finite float. -/
structure Deployment (Worker : Type) where
  config : Worker → PactixConfig
  dialect : Dialect
  floatMax : ℚ

/-- The operations of the workers' stores on one table.  Claiming and the decision to retry
depend on the configuration of the worker. -/
structure Store (Worker Row Arrival Receipt : Type) where
  id : Row → UUID
  leaseUntil : Row → Option DateTime
  /-- The transaction by which a producer adds a message. -/
  receive : Arrival → List Row → Except Error (List Row × Receipt)
  reclaimExpired : DateTime → List Row → List Row × Nat
  /-- The claim queries that the store has. -/
  offers : ClaimQuery → Prop
  claimReady : Worker → ClaimQuery → Choices Row UUID → DateTime → List Row →
    List Row × List Row
  markDone : UUID → DateTime → List Row → List Row
  /-- The other two marks, with the clock reading that they take. -/
  retryStore : Worker → DateTime → RetryStore (List Row)
  floatMax : ℚ

/-- What is not up to the program while it performs one call. -/
structure Context (Row Ask : Type) (Reply : Ask → Type) where
  /-- What the clock shows. -/
  time : Int
  /-- What the database decides. -/
  choices : Choices Row UUID
  /-- What the application answers. -/
  reply : (query : Ask) → Except Error (Reply query)

namespace Store

variable (store : Store Worker Row Arrival Receipt)

/-- The claiming transaction of a pass. -/
def reclaimAndClaim (worker : Worker) (query : ClaimQuery) (choices : Choices Row UUID)
    (now : DateTime) (table : List Row) : (Nat × List Row) × List Row :=
  let (table, reclaimed) := store.reclaimExpired now table
  let (table, claimed) := store.claimReady worker query choices now table
  ((reclaimed, claimed), table)

/-- Perform one call.  All clock readings of one transaction show the same time. -/
def perform (worker : Worker) (context : Context Row Ask Reply) :
    (request : Call Ask) → List Row → Answer Row Reply request × List Row
  | .utcnow, table => (.utc context.time, table)
  | .reclaimAndClaim query now, table =>
      store.reclaimAndClaim worker query context.choices now table
  | .ask query, table => (context.reply query, table)
  | .markDone id, table => ((), store.markDone id (.utc context.time) table)
  | .handleRetryableFailure id attempts maxAttempts error, table =>
      handleRetryableFailure store.floatMax (store.retryStore worker (.utc context.time)) id
        attempts maxAttempts error (.utc context.time) table
  | .markFailed id error, table =>
      ((), (store.retryStore worker (.utc context.time)).markFailed id error table)

/-- The table keeps every row that does not have the given id. -/
def Spares (id : UUID) (before after : List Row) : Prop :=
  ∀ row ∈ before, store.id row ≠ id → row ∈ after

/-- The store behaves as a leased queue with respect to a reading of its rows. -/
structure Refines (entry : Row → Entry UUID (String × String) Int Body) (batchSize : Worker → Nat)
    (leaseDuration : Worker → TimeDelta) : Prop where
  id_entry : ∀ row, (entry row).card.id = store.id row
  lease_entry : ∀ row, (entry row).lease = (store.leaseUntil row).map DateTime.instant
  /-- Receiving adds a fresh row or leaves the table as it is. -/
  receive : ∀ {arrival table after receipt},
    store.receive arrival table = .ok (after, receipt) →
      after = table ∨ ∃ row, after = table ++ [row] ∧ (entry row).Fresh ∧
        store.id row ∉ table.map store.id
  /-- The claiming transaction lends a batch. -/
  lends : ∀ worker query, store.offers query → ∀ choices now table, (table.map store.id).Nodup →
    let claimed := store.reclaimAndClaim worker query choices now table
    let lease := now.instant + leaseDuration worker
    ∃ chosen, Lends (decide (query = .fifo)) now.instant lease (table.map entry) chosen
        (claimed.1.2.map entry) ∧
      claimed.2.map entry = lend chosen lease now.instant (sweep now.instant (table.map entry))
  /-- Claimed records carry the lease of the claim. -/
  leases : ∀ worker query, store.offers query → ∀ choices now table,
    ∀ record ∈ (store.reclaimAndClaim worker query choices now table).1.2,
      (entry record).lease = some (now.instant + leaseDuration worker)
  /-- Unless rows are locked, a ready entry is enough for a claim. -/
  claims : ∀ worker query, store.offers query → ∀ choices now table,
    (table.map store.id).Nodup → 0 < batchSize worker →
    (∀ id, choices.locked id = false) →
    (∃ ready ∈ sweep now.instant (table.map entry),
      ready.Ready (decide (query = .fifo)) now.instant (sweep now.instant (table.map entry))) →
    (store.reclaimAndClaim worker query choices now table).1.2 ≠ []
  /-- The claiming transaction keeps terminal rows. -/
  claim_keeps : ∀ worker query, store.offers query → ∀ choices now table,
    (table.map store.id).Nodup → ∀ row ∈ table, (entry row).phase.terminal = true →
      row ∈ (store.reclaimAndClaim worker query choices now table).2
  markDone : ∀ id now table, (store.markDone id now table).map entry =
    updateWhere (fun stored => decide (stored.card.id = id)) (Entry.finish now.instant)
      (table.map entry)
  markRetry : ∀ worker now id error due table,
    ((store.retryStore worker now).markRetry id error due table).map entry =
      updateWhere (fun stored => decide (stored.card.id = id))
        (Entry.retry error due.instant now.instant) (table.map entry)
  markFailed : ∀ worker now id error table,
    ((store.retryStore worker now).markFailed id error table).map entry =
      updateWhere (fun stored => decide (stored.card.id = id))
        (Entry.fail error now.instant) (table.map entry)
  markDone_spares : ∀ id now table, store.Spares id table (store.markDone id now table)
  markRetry_spares : ∀ worker now id error due table,
    store.Spares id table ((store.retryStore worker now).markRetry id error due table)
  markFailed_spares : ∀ worker now id error table,
    store.Spares id table ((store.retryStore worker now).markFailed id error table)

end Store

/-- A store with the pass that its workers run. -/
structure Service (Worker Row Ask Summary Arrival Receipt Body : Type)
    (Reply : Ask → Type) where
  store : Store Worker Row Arrival Receipt
  runOnce : Worker → Pass Row Ask Reply Summary
  batchSize : Worker → Nat
  leaseDuration : Worker → TimeDelta
  /-- The reading of rows under which the store is a queue. -/
  entry : Row → Entry UUID (String × String) Int Body
  refines : store.Refines entry batchSize leaseDuration
  query : Worker → ClaimQuery
  offered : ∀ worker, store.offers (query worker)
  routine : Worker → Routine Row Ask Reply Summary
  opening : Nat → Nat → Summary
  runOnce_eq : ∀ worker, runOnce worker = (routine worker).runOnce (query worker) opening
  routine_id : ∀ worker row, (routine worker).id row = store.id row
  routine_attempts : ∀ worker row, (routine worker).attempts row = (entry row).attempts
  routine_maxAttempts : ∀ worker row,
    (routine worker).maxAttempts row = (entry row).card.ceiling
  /-- The record a callback is asked about. -/
  subject : Ask → Row
  /-- The callbacks that a worker has. -/
  uses : Worker → Ask → Prop
  judge : (query : Ask) → Reply query → Option Verdict
  inquire_sound : ∀ worker row, ((routine worker).inquire row).Sound judge
    (fun query => subject query = row ∧ uses worker query) none

namespace Service

variable (service : Service Worker Row Ask Summary Arrival Receipt Body Reply)

/-- The time at which a row is due again when a retry is scheduled. -/
def retryAt (worker : Worker) (context : Context Row Ask Reply) (row : Row) : Int :=
  (nextRetryAt service.store.floatMax
    (service.store.retryStore worker (.utc context.time)).retryPolicy
    (service.entry row).attempts (.utc context.time)).instant

/-- Recording a verdict settles the entries with the id of the record. -/
theorem perform_recording (worker : Worker) (context : Context Row Ask Reply) (row : Row)
    (verdict : Verdict) (table : List Row) :
    (service.store.perform worker context
        ((service.routine worker).recording row verdict) table).2.map service.entry =
      updateWhere (fun stored => decide (stored.card.id = (service.entry row).card.id))
        (Entry.settle verdict (service.entry row).attempts (service.entry row).card.ceiling
          (service.retryAt worker context row) context.time)
        (table.map service.entry) := by
  have sameId : (service.routine worker).id row = (service.entry row).card.id := by
    rw [service.routine_id, service.refines.id_entry]
  cases verdict with
  | done =>
      simp only [Routine.recording, Store.perform, sameId]
      rw [service.refines.markDone, DateTime.instant_utc]
      rfl
  | terminal message =>
      simp only [Routine.recording, Store.perform, sameId]
      rw [service.refines.markFailed, DateTime.instant_utc]
      rfl
  | retryable message =>
      simp only [Routine.recording, Store.perform, sameId, service.routine_attempts,
        service.routine_maxAttempts, handleRetryableFailure]
      split
      next final =>
        rw [service.refines.markFailed, DateTime.instant_utc]
        congr 1
        funext entry
        simp only [Entry.settle, final, if_true]
      next again =>
        rw [service.refines.markRetry, DateTime.instant_utc]
        congr 1
        funext entry
        simp only [Entry.settle, again, if_false, retryAt]

/-- Recording a verdict changes no row with another id. -/
theorem recording_spares (worker : Worker) (context : Context Row Ask Reply) (row : Row)
    (verdict : Verdict) (table : List Row) :
    service.store.Spares (service.store.id row) table (service.store.perform worker context
        ((service.routine worker).recording row verdict) table).2 := by
  cases verdict with
  | done =>
      simp only [Routine.recording, Store.perform, service.routine_id]
      exact service.refines.markDone_spares _ _ _
  | terminal message =>
      simp only [Routine.recording, Store.perform, service.routine_id]
      exact service.refines.markFailed_spares _ _ _ _ _
  | retryable message =>
      simp only [Routine.recording, Store.perform, service.routine_id,
        handleRetryableFailure]
      split
      · exact service.refines.markFailed_spares _ _ _ _ _
      · exact service.refines.markRetry_spares _ _ _ _ _ _

end Service

end Pactix.Worker
