import Pactix.Guarantees.Leases
import Pactix.Worker.Statements

/-!
# Well-formed rows

The columns of every row agree, whoever calls the stores in whatever order, and so no row in
processing is out of reach of `reclaim_expired`.
-/

namespace Pactix

open Foundation Queue

variable {Row Status Body : Type}

namespace View

variable [DecidableEq Status] {columns : Columns Row Status} (view : View columns Body)

omit [DecidableEq Status] in
/-- Exactly the rows in processing have a lease. -/
theorem leased {row : Row} (leased : (view.entry row).WellLeased) :
    columns.status row = columns.processing ↔ columns.leaseUntil row ≠ none := by
  refine (view.processing_entry row).symm.trans (leased.trans ?_)
  rw [view.lease_entry, Option.isSome_map, Option.isSome_iff_ne_none]

/-- A well-formed row in processing is returned once its lease has expired. -/
theorem reclaimable {table : List Row} (sound : WellFormed (table.map view.entry)) {index : Nat}
    {row : Row} (stored : table[index]? = some row)
    (processing : columns.status row = columns.processing) :
    ∃ lease, columns.leaseUntil row = some lease ∧
      ∀ dialect now, lease.instant < now.instant →
        (columns.reclaimExpired dialect now table).1[index]? =
          some (columns.setLease columns.pending none (dialect.column now) row) := by
  have membership : view.entry row ∈ table.map view.entry :=
    List.mem_map_of_mem (List.mem_of_getElem? stored)
  obtain ⟨lease, present⟩ :=
    Option.ne_none_iff_exists'.mp ((view.leased (sound _ membership).leased).mp processing)
  refine ⟨lease, present, fun dialect now late => ?_⟩
  have expired : columns.leaseExpired (dialect.column now) row = true := by
    simp [Columns.leaseExpired, processing, present, late]
  simp only [Columns.reclaimExpired, Dialect.bound_column, getElem?_updateWhere, stored,
    Option.map_some, expired, if_true]

end View

namespace Outbox

variable {J : Type}

/-- The columns of a row that depend on each other agree. -/
structure OutboxMessageRecord.WellFormed (row : OutboxMessageRecord J) : Prop where
  leased : row.status = .processing ↔ row.leaseUntil ≠ none
  published : row.status = .published → row.publishedAt ≠ none
  counted : 0 ≤ row.attempts
  attempted : row.attempts = 0 ↔ row.lastError = none
  failed : row.status = .failed → 1 ≤ row.attempts

theorem wellFormed_of_entry {row : OutboxMessageRecord J} (sound : row.entry.WellFormed) :
    row.WellFormed where
  leased := view.leased sound.leased
  published status := by
    have finished := sound.finished (by simp [OutboxMessageRecord.entry, status,
      OutboxStatus.phase])
    simpa [OutboxMessageRecord.entry, Option.isSome_iff_ne_none] using finished
  counted := sound.counted
  attempted := sound.attempted
  failed status :=
    sound.failed (by simp [OutboxMessageRecord.entry, status, OutboxStatus.phase])

theorem store_leasing {Caller : Type} (deployment : Worker.Deployment Caller) :
    (store (J := J) deployment).Leasing OutboxMessageRecord.entry where
  reclaimExpired now table := view.map_reclaimExpired deployment.dialect now table
  claimReady _ _ choices now table :=
    ⟨_, _, view.map_claimReady deployment.dialect .fifo _ _ choices now table⟩

end Outbox

namespace Inbox

variable {J : Type}

/-- The columns of a row that depend on each other agree. -/
structure InboxMessageRecord.WellFormed (row : InboxMessageRecord J) : Prop where
  leased : row.status = .processing ↔ row.leaseUntil ≠ none
  processed : row.status = .processed → row.processedAt ≠ none
  counted : 0 ≤ row.attempts
  attempted : row.attempts = 0 ↔ row.lastError = none
  failed : row.status = .failed → 1 ≤ row.attempts

theorem wellFormed_of_entry {row : InboxMessageRecord J} (sound : row.entry.WellFormed) :
    row.WellFormed where
  leased := view.leased sound.leased
  processed status := by
    have finished := sound.finished (by simp [InboxMessageRecord.entry, status,
      InboxStatus.phase])
    simpa [InboxMessageRecord.entry, Option.isSome_iff_ne_none] using finished
  counted := sound.counted
  attempted := sound.attempted
  failed status :=
    sound.failed (by simp [InboxMessageRecord.entry, status, InboxStatus.phase])

theorem store_leasing {Caller : Type} (deployment : Worker.Deployment Caller) :
    (store (J := J) deployment).Leasing InboxMessageRecord.entry where
  reclaimExpired now table := view.map_reclaimExpired deployment.dialect now table
  claimReady _ query choices now table := by
    cases query with
    | fifo => exact ⟨_, _, view.map_claimReady deployment.dialect .fifo _ _ choices now table⟩
    | unordered =>
        exact ⟨_, _, view.map_claimReady deployment.dialect .unordered _ _ choices now table⟩

end Inbox

namespace Guarantees

open Foundation (Machine)
open Worker (Deployment Statement statements)

/-- Whatever calls are made in whatever order, by callers with whatever configurations, the
columns of every row agree, and every row in processing is pending again after
`reclaim_expired` with any later `now` than its lease. -/
theorem rows_well_formed {Caller J : Type} (deployment : Deployment Caller) :
    let dialect := deployment.dialect
    (∀ table, (statements (Outbox.store (J := J) deployment)).Path Machine.Free [] table →
      (∀ row ∈ table, row.WellFormed) ∧
      ∀ (index : Nat) row, table[index]? = some row → row.status = .processing →
        ∃ lease, row.leaseUntil = some lease ∧ ∀ now, lease.instant < now.instant →
          (Outbox.reclaimExpired dialect now table).1[index]? = some { row with
            status := .pending, leaseUntil := none, updatedAt := dialect.column now }) ∧
    (∀ table, (statements (Inbox.store (J := J) deployment)).Path Machine.Free [] table →
      (∀ row ∈ table, row.WellFormed) ∧
      ∀ (index : Nat) row, table[index]? = some row → row.status = .processing →
        ∃ lease, row.leaseUntil = some lease ∧ ∀ now, lease.instant < now.instant →
          (Inbox.reclaimExpired dialect now table).1[index]? = some { row with
            status := .pending, leaseUntil := none, updatedAt := dialect.column now }) := by
  intro dialect
  constructor
  · intro table path
    have sound := Worker.wellFormed_of_path (Outbox.store_refines deployment)
      (Outbox.store_leasing deployment) path
    constructor
    · intro row membership
      exact Outbox.wellFormed_of_entry (sound _ (List.mem_map_of_mem membership))
    · intro index row stored processing
      obtain ⟨lease, present, returned⟩ := Outbox.view.reclaimable sound stored processing
      exact ⟨lease, present, returned dialect⟩
  · intro table path
    have sound := Worker.wellFormed_of_path (Inbox.store_refines deployment)
      (Inbox.store_leasing deployment) path
    constructor
    · intro row membership
      exact Inbox.wellFormed_of_entry (sound _ (List.mem_map_of_mem membership))
    · intro index row stored processing
      obtain ⟨lease, present, returned⟩ := Inbox.view.reclaimable sound stored processing
      exact ⟨lease, present, returned dialect⟩

/-- Two callers on MySQL, the second one with shorter leases. -/
def callers : Deployment Bool where
  config
    | false => {}
    | true => { leaseDuration := 10 * second }
  dialect := .mysql
  floatMax := deployment.floatMax

/-- What one caller after the other does to a table.  The second one claims the row when the
first one has lost it, and the mark of the first one comes last but one. -/
def overtakenCalls {Row Arrival : Type} (arrival : Arrival) :
    List (Bool × Statement Row Arrival) :=
  [(false, .receive arrival), (false, .claimReady .fifo .plain (.utc second)),
    (true, .reclaimExpired (.utc (40 * second))),
    (true, .claimReady .fifo .plain (.utc (40 * second))),
    (true, .markFailed (.utc (41 * second)) 1 "late"),
    (false, .markRetry (.utc (42 * second)) 1 "busy" (.utc (43 * second))),
    (true, .claimReady .fifo .plain (.utc (50 * second)))]

def overtakenRows :=
  ((statements (Outbox.store callers)).replay Machine.Free [] (overtakenCalls ⟨1, 0, m1, {}⟩)).get
    (by decide +kernel)

def overtakenMessages :=
  ((statements (Inbox.store callers)).replay Machine.Free []
    (overtakenCalls ⟨1, 0, "shop", m1, {}⟩)).get (by decide +kernel)

theorem rows_well_formed_sample :
    (overtakenRows.map fun row => (row.status, row.attempts, row.lastError, row.leaseUntil)) =
        [(.processing, 2, some "busy", some ⟨60 * second, none⟩)] ∧
    (∀ row ∈ overtakenRows, row.WellFormed) ∧
    (Outbox.reclaimExpired .mysql (.utc (61 * second)) overtakenRows).1.map (·.status) =
        [.pending] ∧
    (∀ row ∈ overtakenMessages, row.WellFormed) := by
  have claim := rows_well_formed (J := Unit) callers
  have path := (statements (Outbox.store callers)).path_replay Machine.Free []
    (overtakenCalls ⟨1, 0, m1, {}⟩) (by decide +kernel)
  have pathInbox := (statements (Inbox.store callers)).path_replay Machine.Free []
    (overtakenCalls ⟨1, 0, "shop", m1, {}⟩) (by decide +kernel)
  exact ⟨by decide +kernel, (claim.1 _ path).1, by decide +kernel, (claim.2 _ pathInbox).1⟩

end Guarantees

end Pactix
