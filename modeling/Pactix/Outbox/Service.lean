import Pactix.Outbox.Runner
import Pactix.Outbox.Store
import Pactix.Worker.Service

/-!
# The outbox as a service
-/

namespace Pactix.Outbox

open Foundation Queue
open Worker (Deployment Service Store)

variable {W J : Type}

/-! ## Rows as entries -/

/-- The columns of a row that no operation may change. -/
structure Content (J : Type) where
  id : UUID
  messageId : String
  eventType : String
  messageKey : Option String
  orderingKey : Option String
  correlationId : Option String
  payload : J
  headers : Headers
  maxAttempts : Int
  createdAt : DateTime
  deriving DecidableEq

/-- The fixed columns of a row, as a reader of the row sees them. -/
def OutboxMessageRecord.content (row : OutboxMessageRecord J) : Content J where
  id := row.id
  messageId := row.messageId
  eventType := row.eventType
  messageKey := row.messageKey
  orderingKey := row.orderingKey
  correlationId := row.correlationId
  payload := row.payload
  headers := row.headers
  maxAttempts := row.maxAttempts
  createdAt := awareUtc row.createdAt

def OutboxStatus.phase : OutboxStatus → Phase
  | .pending => .pending
  | .processing => .processing
  | .published => .done
  | .failed => .failed

/-- The group in which a row is delivered in order. -/
def OutboxMessageRecord.key (row : OutboxMessageRecord J) : Option (String × String) :=
  row.orderingKey.map fun key => (row.eventType, key)

/-- A row of the table as an entry of a queue. -/
def OutboxMessageRecord.entry (row : OutboxMessageRecord J) :
    Entry UUID (String × String) Int (Content J) where
  card := {
    id := row.id
    key := row.key
    stamp := row.createdAt.instant
    ceiling := row.maxAttempts
    body := row.content }
  phase := row.status.phase
  attempts := row.attempts
  due := row.availableAt.instant
  lease := row.leaseUntil.map DateTime.instant
  error := row.lastError
  updated := row.updatedAt.instant
  finished := row.publishedAt.map DateTime.instant

@[simp] theorem content_mapRecord (row : OutboxMessageRecord J) :
    (mapRecord row).content = row.content := by
  simp [OutboxMessageRecord.content, mapRecord, awareUtc_awareUtc]

@[simp] theorem entry_mapRecord (row : OutboxMessageRecord J) :
    (mapRecord row).entry = row.entry := by
  unfold OutboxMessageRecord.entry
  rw [content_mapRecord]
  simp [mapRecord, OutboxMessageRecord.key, Option.map_map, Function.comp_def]

/-- The reading of `outbox_message` as a queue. -/
def view : View (columns (J := J)) (Content J) where
  entry := OutboxMessageRecord.entry
  id_entry _ := rfl
  key_entry _ := rfl
  stamp_entry _ := rfl
  due_entry _ := rfl
  lease_entry _ := rfl
  pending_entry row := by
    simp only [OutboxMessageRecord.entry, columns]
    cases row.status <;> simp [OutboxStatus.phase]
  processing_entry row := by
    simp only [OutboxMessageRecord.entry, columns]
    cases row.status <;> simp [OutboxStatus.phase]
  entry_release _ _ := rfl
  entry_take _ _ _ := rfl
  entry_mapRecord := entry_mapRecord

/-! ## The store -/

/-- A producer's call of `append`, committed on its own, with the producer's configuration. -/
structure Arrival (J : Type) where
  id : UUID
  time : Int
  envelope : MessageEnvelope J
  config : PactixConfig

def store (deployment : Deployment W) :
    Store W (OutboxMessageRecord J) (Arrival J) (OutboxMessageRecord J) where
  id := OutboxMessageRecord.id
  leaseUntil := OutboxMessageRecord.leaseUntil
  receive arrival table :=
    append arrival.config deployment.dialect arrival.id (.utc arrival.time) arrival.envelope table
  reclaimExpired := reclaimExpired deployment.dialect
  offers query := query = .fifo
  claimReady worker _ := claimReady (deployment.config worker) deployment.dialect
  markDone := markPublished deployment.dialect
  retryStore worker := retryStore (deployment.config worker) deployment.dialect
  floatMax := deployment.floatMax

/-- A new record is a fresh entry. -/
theorem fresh_recordValues (envelope : MessageEnvelope J) (retryPolicy : RetryPolicy)
    (id : UUID) (now : DateTime) (dialect : Dialect) :
    (recordValues (.ofEnvelope envelope retryPolicy id now) dialect).entry.Fresh :=
  ⟨rfl, rfl, rfl, rfl, rfl⟩

theorem store_refines (deployment : Deployment W) :
    (store (J := J) deployment).Refines OutboxMessageRecord.entry
      (fun worker => (deployment.config worker).outboxBatchSize)
      (fun worker => (deployment.config worker).leaseDuration) where
  id_entry _ := rfl
  lease_entry _ := rfl
  receive received := by
    obtain ⟨added, unknown, _⟩ := insert_eq_ok (append_eq_ok received)
    exact .inr ⟨_, added, fresh_recordValues _ _ _ _ _, unknown⟩
  lends _ query offered choices now table distinct := by
    obtain rfl : query = .fifo := offered
    exact view.lends deployment.dialect .fifo _ _ choices now distinct
  leases _ _ _ choices now table _ claimed :=
    view.lease_claimReady deployment.dialect .fifo _ _ choices now _ claimed
  claims _ query offered choices now table distinct positive unlocked ready := by
    obtain rfl : query = .fifo := offered
    exact view.claims deployment.dialect .fifo _ now distinct positive unlocked ready
  claim_keeps _ query _ choices now table distinct _ membership terminal :=
    view.claim_keeps deployment.dialect .fifo _ _ choices now distinct membership terminal
  markDone id now table := view.map_updateById (fun row => by
    rw [← Dialect.instant_bound deployment.dialect now]
    rfl) table
  markRetry _ now id error due table := view.map_updateById (fun row => by
    rw [← Dialect.instant_bound deployment.dialect now,
      ← Dialect.instant_bound deployment.dialect due]
    rfl) table
  markFailed _ now id error table := view.map_updateById (fun row => by
    rw [← Dialect.instant_bound deployment.dialect now]
    rfl) table
  markDone_spares id now table row membership other := View.mem_updateById _ membership other
  markRetry_spares _ now id error due table row membership other :=
    View.mem_updateById _ membership other
  markFailed_spares _ now id error table row membership other :=
    View.mem_updateById _ membership other

/-! ## The service -/

/-- Outbox workers.  The only callback is the publisher registry. -/
def service {Worker : Type} (deployment : Deployment Worker) :
    Service Worker (OutboxMessageRecord J) (OutboxMessageRecord J) RunSummary (Arrival J)
      (OutboxMessageRecord J) (Content J) (fun _ => PublishOutcome) where
  store := store deployment
  runOnce _ := runOnce
  batchSize worker := (deployment.config worker).outboxBatchSize
  leaseDuration worker := (deployment.config worker).leaseDuration
  entry := OutboxMessageRecord.entry
  refines := store_refines deployment
  query _ := .fifo
  offered _ := rfl
  routine _ := routine
  opening reclaimed claimed := { reclaimed, claimed }
  runOnce_eq _ := runOnce_eq
  routine_id _ _ := rfl
  routine_attempts _ _ := rfl
  routine_maxAttempts _ _ := rfl
  subject record := record
  uses _ _ := True
  judge _ outcome := some outcome.verdict
  inquire_sound _ _ := ⟨rfl, ⟨rfl, trivial⟩, fun _ => rfl⟩

end Pactix.Outbox
