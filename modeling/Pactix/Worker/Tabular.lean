import Pactix.Inbox.Service
import Pactix.Outbox.Service

/-!
# Services on the rows of a table

The guarantees about entries say nothing about the columns that an entry leaves out.  A
tabular service acts row by row, and what it does to a row is written down here.
-/

namespace Pactix.Worker

open Foundation Queue

variable {Worker Row Status Ask Summary Arrival Receipt Body : Type} {Reply : Ask → Type}

/-- A service whose statements are those over the columns of its table. -/
structure Tabular [DecidableEq Status]
    (service : Service Worker Row Ask Summary Arrival Receipt Body Reply)
    (columns : Columns Row Status) where
  view : View columns Body
  entry_eq : view.entry = service.entry
  dialect : Dialect
  id_eq : ∀ row, columns.id row = service.store.id row
  reclaimExpired_eq : ∀ now table,
    service.store.reclaimExpired now table = columns.reclaimExpired dialect now table
  claimReady_eq : ∀ worker query, service.store.offers query → ∀ choices now table,
    service.store.claimReady worker query choices now table =
      columns.claimReady dialect query (service.batchSize worker) (service.leaseDuration worker)
        choices now table
  /-- What a worker that records a verdict about a record at a time does to a row with its
  id. -/
  mark : Worker → Int → Row → Verdict → Row → Row
  /-- Workers with the same retry policy mark alike. -/
  mark_congr : ∀ {one other : Worker},
    (∀ now, (service.store.retryStore one now).retryPolicy =
      (service.store.retryStore other now).retryPolicy) → mark one = mark other
  perform_recording : ∀ worker (context : Context Row Ask Reply) record verdict table,
    (service.store.perform worker context
        ((service.routine worker).recording record verdict) table).2 =
      columns.updateById (service.store.id record) (mark worker context.time record verdict) table
  card_mark : ∀ worker time record verdict row,
    (service.entry (mark worker time record verdict row)).card = (service.entry row).card

namespace Tabular

variable [DecidableEq Status] {columns : Columns Row Status}
variable {service : Service Worker Row Ask Summary Arrival Receipt Body Reply}
variable (tabular : Tabular service columns)

/-- The claiming transaction on the columns. -/
theorem reclaimAndClaim_eq (worker : Worker) {query : ClaimQuery}
    (offered : service.store.offers query) (choices : Choices Row UUID) (now : DateTime)
    (table : List Row) :
    service.store.reclaimAndClaim worker query choices now table =
      let reclaimed := columns.reclaimExpired tabular.dialect now table
      let claimed := columns.claimReady tabular.dialect query (service.batchSize worker)
        (service.leaseDuration worker) choices now reclaimed.1
      ((reclaimed.2, claimed.2), claimed.1) := by
  simp only [Store.reclaimAndClaim, tabular.reclaimExpired_eq,
    tabular.claimReady_eq worker query offered]

/-- The columns that a verdict leaves alone include the id. -/
theorem id_mark (worker : Worker) (time : Int) (record : Row) (verdict : Verdict) (row : Row) :
    columns.id (tabular.mark worker time record verdict row) = columns.id row := by
  rw [tabular.id_eq, tabular.id_eq, ← service.refines.id_entry, ← service.refines.id_entry,
    tabular.card_mark]

include tabular in
/-- The ids of the table, on either reading. -/
theorem map_id (table : List Row) : table.map columns.id = table.map service.store.id :=
  List.map_congr_left fun row _ => tabular.id_eq row

end Tabular

end Pactix.Worker

namespace Pactix.Outbox

open Foundation Queue
open Worker (Deployment Tabular)

variable {W J : Type}

/-- What a verdict does to a row of the outbox. -/
def mark (deployment : Deployment W) (worker : W) (time : Int)
    (record : OutboxMessageRecord J) : Verdict → OutboxMessageRecord J → OutboxMessageRecord J :=
  let column := fun value => deployment.dialect.bound (deployment.dialect.column value)
  let now := column (.utc time)
  let fail (message : String) (row : OutboxMessageRecord J) : OutboxMessageRecord J :=
    { row with
      status := .failed, attempts := row.attempts + 1, leaseUntil := none
      lastError := some message, updatedAt := now }
  fun
  | .done => fun row =>
      { row with
        status := .published, leaseUntil := none, publishedAt := some now, updatedAt := now }
  | .terminal message => fail message
  | .retryable message =>
      if record.attempts + 1 ≥ record.maxAttempts then
        fail message
      else fun row =>
        { row with
          status := .pending, attempts := row.attempts + 1
          availableAt := column (nextRetryAt deployment.floatMax
            (deployment.config worker).retryPolicy record.attempts (.utc time))
          leaseUntil := none, lastError := some message, updatedAt := now }

def tabular {Worker : Type} (deployment : Deployment Worker) :
    Tabular (service (J := J) deployment) columns where
  view := view
  entry_eq := rfl
  dialect := deployment.dialect
  id_eq _ := rfl
  reclaimExpired_eq _ _ := rfl
  claimReady_eq _ query offered _ _ _ := by
    obtain rfl : query = .fifo := offered
    rfl
  mark := mark deployment
  mark_congr same := by
    have policy := same (.utc 0)
    simp only [service, store, retryStore] at policy
    unfold mark
    rw [policy]
  perform_recording worker context record verdict table := by
    cases verdict with
    | done | terminal => rfl
    | retryable message =>
        simp only [mark]
        split
        next final => exact congrArg Prod.snd (if_pos final)
        next again => exact congrArg Prod.snd (if_neg again)
  card_mark worker time record verdict row := by
    cases verdict with
    | done | terminal => rfl
    | retryable message =>
        simp only [mark]
        split <;> rfl

end Pactix.Outbox

namespace Pactix.Inbox

open Foundation Queue
open Worker (Deployment Tabular)

variable {W J : Type}

/-- What a verdict does to a row of the inbox. -/
def mark (deployment : Deployment W) (worker : W) (time : Int)
    (record : InboxMessageRecord J) : Verdict → InboxMessageRecord J → InboxMessageRecord J :=
  let column := fun value => deployment.dialect.bound (deployment.dialect.column value)
  let now := column (.utc time)
  let fail (message : String) (row : InboxMessageRecord J) : InboxMessageRecord J :=
    { row with
      status := .failed, attempts := row.attempts + 1, leaseUntil := none
      lastError := some message, updatedAt := now }
  fun
  | .done => fun row =>
      { row with
        status := .processed, leaseUntil := none, processedAt := some now, updatedAt := now }
  | .terminal message => fail message
  | .retryable message =>
      if record.attempts + 1 ≥ record.maxAttempts then
        fail message
      else fun row =>
        { row with
          status := .pending, attempts := row.attempts + 1
          availableAt := column (nextRetryAt deployment.floatMax
            (deployment.config worker).retryPolicy record.attempts (.utc time))
          leaseUntil := none, lastError := some message, updatedAt := now }

def tabular {Worker : Type} (deployment : Deployment Worker) (mode : Worker → Mode) :
    Tabular (service (J := J) deployment mode) columns where
  view := view
  entry_eq := rfl
  dialect := deployment.dialect
  id_eq _ := rfl
  reclaimExpired_eq _ _ := rfl
  claimReady_eq _ query _ _ _ _ := by cases query <;> rfl
  mark := mark deployment
  mark_congr same := by
    have policy := same (.utc 0)
    simp only [service, store, retryStore] at policy
    unfold mark
    rw [policy]
  perform_recording worker context record verdict table := by
    cases verdict with
    | done | terminal => rfl
    | retryable message =>
        simp only [mark]
        split
        next final => exact congrArg Prod.snd (if_pos final)
        next again => exact congrArg Prod.snd (if_neg again)
  card_mark worker time record verdict row := by
    cases verdict with
    | done | terminal => rfl
    | retryable message =>
        simp only [mark]
        split <;> rfl

end Pactix.Inbox
