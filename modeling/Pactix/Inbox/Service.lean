import Pactix.Inbox.Runner
import Pactix.Inbox.Store
import Pactix.Worker.Service

/-!
# The inbox as a service
-/

namespace Pactix.Inbox

open Foundation Queue
open Worker (Deployment Service Store)

variable {W J : Type}

/-! ## Rows as entries -/

/-- The columns of a row that no operation may change. -/
structure Content (J : Type) where
  id : UUID
  source : String
  messageId : String
  eventType : String
  messageKey : Option String
  orderingKey : Option String
  correlationId : Option String
  payload : J
  headers : Headers
  maxAttempts : Int
  receivedAt : DateTime
  deriving DecidableEq

/-- The fixed columns of a row, as a reader of the row sees them. -/
def InboxMessageRecord.content (row : InboxMessageRecord J) : Content J where
  id := row.id
  source := row.source
  messageId := row.messageId
  eventType := row.eventType
  messageKey := row.messageKey
  orderingKey := row.orderingKey
  correlationId := row.correlationId
  payload := row.payload
  headers := row.headers
  maxAttempts := row.maxAttempts
  receivedAt := awareUtc row.receivedAt

def InboxStatus.phase : InboxStatus → Phase
  | .pending => .pending
  | .processing => .processing
  | .processed => .done
  | .failed => .failed

/-- The group in which a row is delivered in order. -/
def InboxMessageRecord.key (row : InboxMessageRecord J) : Option (String × String) :=
  row.orderingKey.map fun key => (row.eventType, key)

/-- A row of the table as an entry of a queue. -/
def InboxMessageRecord.entry (row : InboxMessageRecord J) :
    Entry UUID (String × String) Int (Content J) where
  card := {
    id := row.id
    key := row.key
    stamp := row.receivedAt.instant
    ceiling := row.maxAttempts
    body := row.content }
  phase := row.status.phase
  attempts := row.attempts
  due := row.availableAt.instant
  lease := row.leaseUntil.map DateTime.instant
  error := row.lastError
  updated := row.updatedAt.instant
  finished := row.processedAt.map DateTime.instant

@[simp] theorem content_mapRecord (row : InboxMessageRecord J) :
    (mapRecord row).content = row.content := by
  simp [InboxMessageRecord.content, mapRecord, awareUtc_awareUtc]

@[simp] theorem entry_mapRecord (row : InboxMessageRecord J) :
    (mapRecord row).entry = row.entry := by
  unfold InboxMessageRecord.entry
  rw [content_mapRecord]
  simp [mapRecord, InboxMessageRecord.key, Option.map_map, Function.comp_def]

/-- The reading of `inbox_message` as a queue. -/
def view : View (columns (J := J)) (Content J) where
  entry := InboxMessageRecord.entry
  id_entry _ := rfl
  key_entry _ := rfl
  stamp_entry _ := rfl
  due_entry _ := rfl
  lease_entry _ := rfl
  pending_entry row := by
    simp only [InboxMessageRecord.entry, columns]
    cases row.status <;> simp [InboxStatus.phase]
  processing_entry row := by
    simp only [InboxMessageRecord.entry, columns]
    cases row.status <;> simp [InboxStatus.phase]
  entry_release _ _ := rfl
  entry_take _ _ _ := rfl
  entry_mapRecord := entry_mapRecord

/-! ## The store -/

/-- A call of `saveReceived`, committed on its own, with the configuration of the caller's
store. -/
structure Arrival (J : Type) where
  id : UUID
  time : Int
  source : String
  envelope : MessageEnvelope J
  config : PactixConfig

def store (deployment : Deployment W) :
    Store W (InboxMessageRecord J) (Arrival J) (ReceiveOutcome J) where
  id := InboxMessageRecord.id
  leaseUntil := InboxMessageRecord.leaseUntil
  receive arrival table :=
    saveReceived arrival.config deployment.dialect arrival.id (.utc arrival.time)
      arrival.source arrival.envelope table
  reclaimExpired := reclaimExpired deployment.dialect
  offers _ := True
  claimReady worker query :=
    match query with
    | .fifo => claimReady (deployment.config worker) deployment.dialect
    | .unordered => claimReadyUnordered (deployment.config worker) deployment.dialect
  markDone := markProcessed deployment.dialect
  retryStore worker := retryStore (deployment.config worker) deployment.dialect
  floatMax := deployment.floatMax

/-- A new record is a fresh entry. -/
theorem fresh_recordValues (source : String) (envelope : MessageEnvelope J)
    (retryPolicy : RetryPolicy) (id : UUID) (now : DateTime) (dialect : Dialect) :
    (recordValues (.ofEnvelope source envelope retryPolicy id now) dialect).entry.Fresh :=
  ⟨rfl, rfl, rfl, rfl, rfl⟩

theorem fresh_truncated {row : InboxMessageRecord J} (fresh : row.entry.Fresh) :
    (truncated row).entry.Fresh :=
  ⟨fresh.pending, fresh.attempts, fresh.lease, fresh.error, fresh.finished⟩

/-- A committed receipt adds a fresh row or leaves the table alone. -/
theorem saveReceived_table {config : PactixConfig} {dialect : Dialect} {id : UUID} {now : DateTime}
    {source : String} {envelope : MessageEnvelope J} {table after : Table J}
    {outcome : ReceiveOutcome J}
    (saved : saveReceived config dialect id now source envelope table = .ok (after, outcome)) :
    after = table ∨ ∃ row, after = table ++ [row] ∧ row.entry.Fresh ∧
      row.id ∉ table.map InboxMessageRecord.id := by
  cases dialect with
  | postgresql =>
      obtain ⟨_, row, upserted, _⟩ := saveReceived_postgresql saved
      rcases upsert_eq_ok upserted with ⟨_, same, _⟩ | ⟨_, added, _, unknown, _⟩
      · exact .inl same
      · exact .inr ⟨_, added, fresh_recordValues _ _ _ _ _ _, unknown⟩
  | mysql =>
      have after_eq := saveReceived_mysql saved
      rcases insertIgnore_eq (recordValues (.ofEnvelope source envelope
          config.retryPolicy id now) .mysql) table with skipped | ⟨added, unknown⟩
      · exact .inl (by rw [after_eq, skipped])
      · exact .inr ⟨_, by rw [after_eq, added], fresh_truncated (fresh_recordValues _ _ _ _ _ _),
          unknown⟩

theorem store_refines (deployment : Deployment W) :
    (store (J := J) deployment).Refines InboxMessageRecord.entry
      (fun worker => (deployment.config worker).inboxBatchSize)
      (fun worker => (deployment.config worker).leaseDuration) where
  id_entry _ := rfl
  lease_entry _ := rfl
  receive received := saveReceived_table received
  lends _ query _ choices now table distinct := by
    cases query with
    | fifo => exact view.lends deployment.dialect .fifo _ _ choices now distinct
    | unordered => exact view.lends deployment.dialect .unordered _ _ choices now distinct
  leases _ query _ choices now table _ claimed := by
    cases query with
    | fifo => exact view.lease_claimReady deployment.dialect .fifo _ _ choices now _ claimed
    | unordered =>
        exact view.lease_claimReady deployment.dialect .unordered _ _ choices now _ claimed
  claims _ query _ choices now table distinct positive unlocked ready := by
    cases query with
    | fifo => exact view.claims deployment.dialect .fifo _ now distinct positive unlocked ready
    | unordered =>
        exact view.claims deployment.dialect .unordered _ now distinct positive unlocked ready
  claim_keeps _ query _ choices now table distinct row membership terminal := by
    cases query with
    | fifo =>
        exact view.claim_keeps deployment.dialect .fifo _ _ choices now distinct membership
          terminal
    | unordered =>
        exact view.claim_keeps deployment.dialect .unordered _ _ choices now distinct membership
          terminal
  markDone id now table := view.map_updateById (fun row => by
    rw [← Dialect.instant_bound deployment.dialect now]
    rfl) table
  markRetry _ now id error due table := view.map_updateById (fun row => by
    rw [← Dialect.instant_bound deployment.dialect now,
      ← Dialect.instant_bound deployment.dialect due]
    rfl) table
  markFailed _ now id error table := view.map_updateById (fun row => by
    rw [← Dialect.instant_bound deployment.dialect now]
    rfl) table
  markDone_spares id now table row membership other := View.mem_updateById _ membership other
  markRetry_spares _ now id error due table row membership other :=
    View.mem_updateById _ membership other
  markFailed_spares _ now id error table row membership other :=
    View.mem_updateById _ membership other

/-! ## The service -/

/-- Inbox workers, each with its mode.  Only unordered workers ask the stale filter. -/
def service {Worker : Type} (deployment : Deployment Worker) (mode : Worker → Mode) :
    Service Worker (InboxMessageRecord J) (Query J) RunSummary (Arrival J) (ReceiveOutcome J)
      (Content J) Query.Reply where
  store := store deployment
  runOnce worker := runOnce (mode worker)
  batchSize worker := (deployment.config worker).inboxBatchSize
  leaseDuration worker := (deployment.config worker).leaseDuration
  entry := InboxMessageRecord.entry
  refines := store_refines deployment
  query worker := (mode worker).query
  offered _ := trivial
  routine worker := routine (mode worker)
  opening reclaimed claimed := { reclaimed, claimed }
  runOnce_eq worker := runOnce_eq (mode worker)
  routine_id _ _ := rfl
  routine_attempts _ _ := rfl
  routine_maxAttempts _ _ := rfl
  subject := Query.record
  uses worker query :=
    match query with
    | .staleEventFilter _ => mode worker = .unordered
    | .idempotencyHook _ => True
    | .handler _ => True
  judge := Query.judge
  inquire_sound worker row := by
    have fresh : (inquireFresh row).Sound Query.judge
        (fun query => query.record = row ∧
          match query with
          | .staleEventFilter _ => mode worker = .unordered
          | .idempotencyHook _ => True
          | .handler _ => True) none := by
      refine ⟨rfl, ⟨rfl, trivial⟩, fun decision => ?_⟩
      cases decision with
      | process => exact ⟨rfl, ⟨rfl, trivial⟩, fun _ => rfl⟩
      | skip => rfl
      | alreadyApplied => rfl
    simp only [routine, inquire]
    split
    · exact fresh
    next unordered =>
      refine ⟨rfl, ⟨rfl, unordered⟩, fun decision => ?_⟩
      cases decision with
      | stale => rfl
      | fresh => exact fresh

end Pactix.Inbox
