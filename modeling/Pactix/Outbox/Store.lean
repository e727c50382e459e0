import Pactix.Leasing.Columns
import Pactix.Outbox.Model
import Pactix.Retry

/-!
# Outbox persistence

Each operation of `OutboxStore` is a function of the dialect, the clock readings
it takes, and the table.  Constraints that the tables declare are checked where a
row is inserted.
-/

namespace Pactix.Outbox

open Foundation

variable {J : Type}

/-- The contents of `outbox_message`. -/
abbrev Table (J : Type) := List (OutboxMessageRecord J)

/-! ## Rows and records -/

/-- `_record_values`: headers sorted, and naive UTC datetimes on MySQL. -/
def recordValues (record : OutboxMessageRecord J) (dialect : Dialect) :
    OutboxMessageRecord J :=
  { record with
    headers := record.headers.sorted
    availableAt := dialect.column record.availableAt
    leaseUntil := record.leaseUntil.map dialect.column
    createdAt := dialect.column record.createdAt
    updatedAt := dialect.column record.updatedAt
    publishedAt := record.publishedAt.map dialect.column }

/-- The values as they reach the database. -/
def boundValues (values : OutboxMessageRecord J) (dialect : Dialect) : OutboxMessageRecord J :=
  { values with
    availableAt := dialect.bound values.availableAt
    leaseUntil := values.leaseUntil.map dialect.bound
    createdAt := dialect.bound values.createdAt
    updatedAt := dialect.bound values.updatedAt
    publishedAt := values.publishedAt.map dialect.bound }

@[simp] theorem boundValues_recordValues (record : OutboxMessageRecord J) (dialect : Dialect) :
    boundValues (recordValues record dialect) dialect = recordValues record dialect := by
  simp [boundValues, recordValues, Option.map_map, Function.comp_def]

/-- `_map_record`: datetimes read back are aware. -/
def mapRecord (row : OutboxMessageRecord J) : OutboxMessageRecord J :=
  { row with
    availableAt := awareUtc row.availableAt
    leaseUntil := row.leaseUntil.map awareUtc
    createdAt := awareUtc row.createdAt
    updatedAt := awareUtc row.updatedAt
    publishedAt := row.publishedAt.map awareUtc }

/-! ## Appending -/

/-- The text columns that a caller fills, with their types on MySQL. -/
def textColumns (row : OutboxMessageRecord J) : List (String × TextType × Option String) :=
  [("message_id", .varchar, some row.messageId), ("event_type", .varchar, some row.eventType),
    ("message_key", .text, row.messageKey), ("ordering_key", .varchar, row.orderingKey),
    ("correlation_id", .varchar, row.correlationId)]

/-- The first column that has no room for its value. -/
def overlongColumn (columns : List (String × TextType × Option String)) : Option String :=
  (columns.find? fun (_, type, value) => value.any fun text => !decide (type.Holds text)).map
    Prod.fst

/-- `INSERT INTO outbox_message`, under the primary key, the unique `message_id`
and, on MySQL, the column widths of strict mode. -/
def insert (dialect : Dialect) (values : OutboxMessageRecord J) (table : Table J) :
    Except Error (Table J) :=
  match if dialect = .mysql then overlongColumn (textColumns values) else none with
  | some column => .error (.data column)
  | none =>
      if table.any fun row => decide (row.id = values.id) then
        .error (.integrity "outbox_message_pkey")
      else if table.any fun row => decide (row.messageId = values.messageId) then
        .error (.integrity "outbox_message_message_id_key")
      else
        .ok (table ++ [values])

/-- Insert a new pending row using the caller's transaction. -/
def append (config : PactixConfig) (dialect : Dialect) (id : UUID) (now : DateTime)
    (envelope : MessageEnvelope J) (table : Table J) :
    Except Error (Table J × OutboxMessageRecord J) := do
  let record ← OutboxMessageRecord.pending envelope.metadata envelope.payload
    config.retryPolicy id now
  let values := recordValues record dialect
  let table ← insert dialect (boundValues values dialect) table
  match dialect with
  | .mysql => return (table, record)
  | .postgresql => return (table, mapRecord values)

/-- A successful insert adds the row, under a new id and a new `message_id`. -/
theorem insert_eq_ok {dialect : Dialect} {values : OutboxMessageRecord J}
    {table after : Table J} (inserted : insert dialect values table = .ok after) :
    after = table ++ [values] ∧ values.id ∉ table.map OutboxMessageRecord.id ∧
      values.messageId ∉ table.map OutboxMessageRecord.messageId := by
  unfold insert at inserted
  split at inserted
  · simp at inserted
  · split at inserted
    · simp at inserted
    · split at inserted
      · simp at inserted
      next freshId freshMessage =>
        simp only [Except.ok.injEq] at inserted
        exact ⟨inserted.symm, by simpa using freshId, by simpa using freshMessage⟩

/-- A committed `append` adds the row of the envelope. -/
theorem append_eq_ok {config : PactixConfig} {dialect : Dialect} {id : UUID} {now : DateTime}
    {envelope : MessageEnvelope J} {table after : Table J} {record : OutboxMessageRecord J}
    (appended : append config dialect id now envelope table = .ok (after, record)) :
    insert dialect (recordValues (.ofEnvelope envelope config.retryPolicy id now) dialect)
      table = .ok after := by
  simp only [append, OutboxMessageRecord.pending, MessageEnvelope.make_parts,
    boundValues_recordValues] at appended
  simp only [bind, Except.bind, pure, Except.pure] at appended
  split at appended
  · simp at appended
  next inserted =>
    rw [inserted]
    cases dialect <;> simp only [Except.ok.injEq, Prod.mk.injEq] at appended <;>
      rw [appended.1]

/-- The rows with a status, oldest first. -/
def listByStatus (choices : Choices (OutboxMessageRecord J) UUID)
    (status : OutboxStatus) (table : Table J) : List (OutboxMessageRecord J) :=
  ((choices.scan (table.filter fun row => row.status.asStr = status.asStr)).insertionSort
    fun left right => left.createdAt.instant ≤ right.createdAt.instant).map mapRecord

/-! ## Reclaiming and claiming -/

/-- The columns of `outbox_message`. -/
def columns : Columns (OutboxMessageRecord J) OutboxStatus where
  id := OutboxMessageRecord.id
  eventType := OutboxMessageRecord.eventType
  orderingKey := OutboxMessageRecord.orderingKey
  arrivedAt := OutboxMessageRecord.createdAt
  status := OutboxMessageRecord.status
  availableAt := OutboxMessageRecord.availableAt
  leaseUntil := OutboxMessageRecord.leaseUntil
  pending := .pending
  processing := .processing
  setLease status leaseUntil updatedAt row := { row with status, leaseUntil, updatedAt }
  mapRecord := mapRecord

/-- Return expired rows to pending, and count them. -/
def reclaimExpired (dialect : Dialect) (now : DateTime) (table : Table J) :
    Table J × Nat :=
  columns.reclaimExpired dialect now table

/-- Claim ready rows, preserving FIFO per event type and ordering key. -/
def claimReady (config : PactixConfig) (dialect : Dialect)
    (choices : Choices (OutboxMessageRecord J) UUID) (now : DateTime)
    (table : Table J) : Table J × List (OutboxMessageRecord J) :=
  columns.claimReady dialect .fifo config.outboxBatchSize config.leaseDuration choices now table

/-! ## Recording outcomes -/

/-! Error texts are taken to have room in their column; `Columns.refusesError` says when an
update is refused. -/

def markPublished (dialect : Dialect) (id : UUID) (publishedAt : DateTime)
    (table : Table J) : Table J :=
  let publishedAt := dialect.bound (dialect.column publishedAt)
  columns.updateById id
    (fun row => { row with
      status := .published, leaseUntil := none, publishedAt := some publishedAt
      updatedAt := publishedAt })
    table

/-- `now` is the reading the operation takes itself. -/
def markRetry (dialect : Dialect) (now : DateTime) (id : UUID) (error : String)
    (availableAt : DateTime) (table : Table J) : Table J :=
  let updatedAt := dialect.bound (dialect.column now)
  let availableAt := dialect.bound (dialect.column availableAt)
  columns.updateById id
    (fun row => { row with
      status := .pending, attempts := row.attempts + 1, availableAt, leaseUntil := none
      lastError := some error, updatedAt })
    table

/-- `now` is the reading the operation takes itself. -/
def markFailed (dialect : Dialect) (now : DateTime) (id : UUID) (error : String)
    (table : Table J) : Table J :=
  let updatedAt := dialect.bound (dialect.column now)
  columns.updateById id
    (fun row => { row with
      status := .failed, attempts := row.attempts + 1, leaseUntil := none
      lastError := some error, updatedAt })
    table

/-- The store as the retry decision sees it. -/
def retryStore (config : PactixConfig) (dialect : Dialect) (now : DateTime) :
    RetryStore (Table J) where
  retryPolicy := config.retryPolicy
  markRetry := markRetry dialect now
  markFailed := markFailed dialect now

end Pactix.Outbox
