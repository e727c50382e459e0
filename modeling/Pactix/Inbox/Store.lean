import Pactix.Inbox.Model
import Pactix.Leasing.Columns
import Pactix.Retry

/-!
# Inbox persistence

Deduplication uses an upsert on PostgreSQL and `INSERT IGNORE` on MySQL; claims
and marks are those of the outbox on the columns of `inbox_message`.
-/

namespace Pactix.Inbox

open Foundation

variable {J : Type}

/-- The contents of `inbox_message`. -/
abbrev Table (J : Type) := List (InboxMessageRecord J)

/-- Result of `saveReceived`. -/
structure ReceiveOutcome (J : Type) where
  record : InboxMessageRecord J
  inserted : Bool
  deriving DecidableEq, Repr

/-! ## Rows and records -/

/-- `_record_values`: headers sorted, and naive UTC datetimes on MySQL. -/
def recordValues (record : InboxMessageRecord J) (dialect : Dialect) :
    InboxMessageRecord J :=
  { record with
    headers := record.headers.sorted
    availableAt := dialect.column record.availableAt
    leaseUntil := record.leaseUntil.map dialect.column
    receivedAt := dialect.column record.receivedAt
    updatedAt := dialect.column record.updatedAt
    processedAt := record.processedAt.map dialect.column }

/-- The values as they reach the database. -/
def boundValues (values : InboxMessageRecord J) (dialect : Dialect) : InboxMessageRecord J :=
  { values with
    availableAt := dialect.bound values.availableAt
    leaseUntil := values.leaseUntil.map dialect.bound
    receivedAt := dialect.bound values.receivedAt
    updatedAt := dialect.bound values.updatedAt
    processedAt := values.processedAt.map dialect.bound }

@[simp] theorem boundValues_recordValues (record : InboxMessageRecord J) (dialect : Dialect) :
    boundValues (recordValues record dialect) dialect = recordValues record dialect := by
  simp [boundValues, recordValues, Option.map_map, Function.comp_def]

/-- `_map_record`: datetimes read back are aware. -/
def mapRecord (row : InboxMessageRecord J) : InboxMessageRecord J :=
  { row with
    availableAt := awareUtc row.availableAt
    leaseUntil := row.leaseUntil.map awareUtc
    receivedAt := awareUtc row.receivedAt
    updatedAt := awareUtc row.updatedAt
    processedAt := row.processedAt.map awareUtc }

/-! ## Receiving -/

/-- The row has the given values in the unique columns. -/
def sameMessage (source messageId : String) (row : InboxMessageRecord J) : Bool :=
  decide (row.source = source) && decide (row.messageId = messageId)

/-- `INSERT ... ON CONFLICT (source, message_id) DO UPDATE SET source = source
RETURNING *, (xmax = 0)`. -/
def upsert (values : InboxMessageRecord J) (table : Table J) :
    Except Error (Table J × InboxMessageRecord J × Bool) :=
  match table.find? (sameMessage values.source values.messageId) with
  | some existing => .ok (table, existing, false)
  | none =>
      if table.any fun row => decide (row.id = values.id) then
        .error (.integrity "inbox_message_pkey")
      else
        .ok (table ++ [values], values, true)

/-- The first 255 characters of a value. -/
def truncate (value : String) : String := String.ofList (value.toList.take 255)

/-- The characters that are whole within a number of bytes. -/
def takeBytes : Nat → List Char → List Char
  | _, [] => []
  | bytes, char :: chars =>
      if char.utf8Size ≤ bytes then char :: takeBytes (bytes - char.utf8Size) chars else []

/-- The part of a value that a `TEXT` column has room for. -/
def truncateText (value : String) : String := String.ofList (takeBytes 65535 value.toList)

/-- What MySQL stores of a row under `INSERT IGNORE`: values that a column has no room for
are cut. -/
def truncated (values : InboxMessageRecord J) : InboxMessageRecord J :=
  { values with
    source := truncate values.source
    messageId := truncate values.messageId
    eventType := truncate values.eventType
    messageKey := values.messageKey.map truncateText
    orderingKey := values.orderingKey.map truncate
    correlationId := values.correlationId.map truncate }

/-- `INSERT IGNORE`, with its row count.  A conflict of either key is skipped. -/
def insertIgnore (values : InboxMessageRecord J) (table : Table J) : Table J × Nat :=
  let stored := truncated values
  if table.any fun row =>
      decide (row.id = stored.id) || sameMessage stored.source stored.messageId row then
    (table, 0)
  else
    (table ++ [stored], 1)

/-- MySQL deduplication: a row that was not inserted is read back by the values of
the record. -/
def saveReceivedMysql (record values : InboxMessageRecord J) (table : Table J) :
    Except Error (Table J × ReceiveOutcome J) :=
  let (table, rowcount) := insertIgnore values table
  if rowcount = 1 then
    .ok (table, ⟨record, true⟩)
  else
    match table.find? (sameMessage record.source record.messageId) with
    | some row => .ok (table, ⟨mapRecord row, false⟩)
    | none => .error .noResult

/-- Durably store a received message, deduplicating on source and message id. -/
def saveReceived (config : PactixConfig) (dialect : Dialect) (id : UUID) (now : DateTime)
    (source : String) (envelope : MessageEnvelope J) (table : Table J) :
    Except Error (Table J × ReceiveOutcome J) := do
  let record ← InboxMessageRecord.pending source envelope.metadata envelope.payload
    config.retryPolicy id now
  let values := boundValues (recordValues record dialect) dialect
  match dialect with
  | .mysql => saveReceivedMysql record values table
  | .postgresql =>
      let (table, row, inserted) ← upsert values table
      return (table, ⟨mapRecord row, inserted⟩)

/-- An upsert finds the message or adds it. -/
theorem upsert_eq_ok {values row : InboxMessageRecord J} {table after : Table J}
    {inserted : Bool} (upserted : upsert values table = .ok (after, row, inserted)) :
    (inserted = false ∧ after = table ∧ row ∈ table ∧
        sameMessage values.source values.messageId row = true) ∨
      (inserted = true ∧ after = table ++ [values] ∧ row = values ∧
        values.id ∉ table.map InboxMessageRecord.id ∧
        ∀ stored ∈ table, sameMessage values.source values.messageId stored = false) := by
  unfold upsert at upserted
  split at upserted
  next existing found =>
    simp only [Except.ok.injEq, Prod.mk.injEq] at upserted
    obtain ⟨rfl, rfl, rfl⟩ := upserted
    exact .inl ⟨rfl, rfl, List.mem_of_find?_eq_some found, List.find?_some found⟩
  next missing =>
    split at upserted
    · simp at upserted
    next freshId =>
      simp only [Except.ok.injEq, Prod.mk.injEq] at upserted
      obtain ⟨rfl, rfl, rfl⟩ := upserted
      exact .inr ⟨rfl, rfl, rfl, by simpa using freshId, by simpa using missing⟩

/-- `INSERT IGNORE` adds the cut row or does nothing. -/
theorem insertIgnore_eq (values : InboxMessageRecord J) (table : Table J) :
    insertIgnore values table = (table, 0) ∨
      (insertIgnore values table = (table ++ [truncated values], 1) ∧
        (truncated values).id ∉ table.map InboxMessageRecord.id) := by
  simp only [insertIgnore]
  split
  · exact .inl rfl
  next fresh =>
    refine .inr ⟨rfl, ?_⟩
    simp only [List.any_eq_true, Bool.or_eq_true, decide_eq_true_eq, not_exists, not_and,
      not_or] at fresh
    rw [List.mem_map]
    rintro ⟨row, membership, sameId⟩
    exact (fresh row membership).1 sameId

/-- On PostgreSQL a committed receipt is an upsert under a source that is not blank. -/
theorem saveReceived_postgresql {config : PactixConfig} {id : UUID} {now : DateTime}
    {source : String} {envelope : MessageEnvelope J} {table after : Table J}
    {outcome : ReceiveOutcome J}
    (saved : saveReceived config .postgresql id now source envelope table =
      .ok (after, outcome)) :
    isBlank source = false ∧
      ∃ row, upsert (recordValues (.ofEnvelope source envelope config.retryPolicy id now)
          .postgresql) table = .ok (after, row, outcome.inserted) ∧
        outcome.record = mapRecord row := by
  simp only [saveReceived, InboxMessageRecord.pending, MessageEnvelope.make_parts] at saved
  split at saved
  · simp [bind, Except.bind, throw, throwThe, MonadExceptOf.throw] at saved
  next notBlank =>
    simp only [bind, Except.bind, pure, Except.pure] at saved
    split at saved
    · simp at saved
    next upserted result =>
      obtain ⟨table, row, inserted⟩ := upserted
      simp only [Except.ok.injEq, Prod.mk.injEq] at saved
      obtain ⟨rfl, rfl⟩ := saved
      exact ⟨by simpa using notBlank, row, result, rfl⟩

/-- On PostgreSQL a message that is there already is read back. -/
theorem saveReceived_duplicate (config : PactixConfig) (id : UUID) (now : DateTime)
    {source : String} (envelope : MessageEnvelope J) {table : Table J}
    {row : InboxMessageRecord J} (notBlank : isBlank source = false)
    (found : table.find? (sameMessage source envelope.metadata.messageId) = some row) :
    saveReceived config .postgresql id now source envelope table =
      .ok (table, ⟨mapRecord row, false⟩) := by
  have upserted : upsert (recordValues (.ofEnvelope source envelope config.retryPolicy id now)
      .postgresql) table = .ok (table, row, false) := by
    simp only [upsert, recordValues, InboxMessageRecord.ofEnvelope]
    rw [found]
  simp [saveReceived, InboxMessageRecord.pending, notBlank, bind, Except.bind, upserted, pure,
    Except.pure]

/-- On MySQL a committed receipt is an `INSERT IGNORE`. -/
theorem saveReceived_mysql {config : PactixConfig} {id : UUID} {now : DateTime}
    {source : String} {envelope : MessageEnvelope J} {table after : Table J}
    {outcome : ReceiveOutcome J}
    (saved : saveReceived config .mysql id now source envelope table =
      .ok (after, outcome)) :
    after = (insertIgnore (recordValues
      (.ofEnvelope source envelope config.retryPolicy id now) .mysql) table).1 := by
  simp only [saveReceived, InboxMessageRecord.pending, MessageEnvelope.make_parts] at saved
  split at saved
  · simp [bind, Except.bind, throw, throwThe, MonadExceptOf.throw] at saved
  · simp only [bind, Except.bind, pure, Except.pure, saveReceivedMysql] at saved
    split at saved
    · simp only [Except.ok.injEq, Prod.mk.injEq] at saved
      exact saved.1.symm
    · split at saved
      · simp only [Except.ok.injEq, Prod.mk.injEq] at saved
        exact saved.1.symm
      · simp at saved

/-- The rows with a status, oldest first. -/
def listByStatus (choices : Choices (InboxMessageRecord J) UUID)
    (status : InboxStatus) (table : Table J) : List (InboxMessageRecord J) :=
  ((choices.scan (table.filter fun row => row.status.asStr = status.asStr)).insertionSort
    fun left right => left.receivedAt.instant ≤ right.receivedAt.instant).map mapRecord

/-! ## Reclaiming and claiming -/

/-- The columns of `inbox_message`. -/
def columns : Columns (InboxMessageRecord J) InboxStatus where
  id := InboxMessageRecord.id
  eventType := InboxMessageRecord.eventType
  orderingKey := InboxMessageRecord.orderingKey
  arrivedAt := InboxMessageRecord.receivedAt
  status := InboxMessageRecord.status
  availableAt := InboxMessageRecord.availableAt
  leaseUntil := InboxMessageRecord.leaseUntil
  pending := .pending
  processing := .processing
  setLease status leaseUntil updatedAt row := { row with status, leaseUntil, updatedAt }
  mapRecord := mapRecord

/-- Return expired rows to pending, and count them. -/
def reclaimExpired (dialect : Dialect) (now : DateTime) (table : Table J) :
    Table J × Nat :=
  columns.reclaimExpired dialect now table

/-- `_claim` and `_claim_mysql` with one of the queries. -/
def claim (config : PactixConfig) (dialect : Dialect) (query : ClaimQuery)
    (choices : Choices (InboxMessageRecord J) UUID) (now : DateTime)
    (table : Table J) : Table J × List (InboxMessageRecord J) :=
  columns.claimReady dialect query config.inboxBatchSize config.leaseDuration choices now table

/-- Claim ready rows, preserving FIFO per event type and ordering key. -/
def claimReady (config : PactixConfig) (dialect : Dialect)
    (choices : Choices (InboxMessageRecord J) UUID) (now : DateTime)
    (table : Table J) : Table J × List (InboxMessageRecord J) :=
  claim config dialect .fifo choices now table

def claimReadyUnordered (config : PactixConfig) (dialect : Dialect)
    (choices : Choices (InboxMessageRecord J) UUID) (now : DateTime)
    (table : Table J) : Table J × List (InboxMessageRecord J) :=
  claim config dialect .unordered choices now table

/-! ## Recording outcomes -/

/-! Error texts are taken to have room in their column; `Columns.refusesError` says when an
update is refused. -/

def markProcessed (dialect : Dialect) (id : UUID) (processedAt : DateTime)
    (table : Table J) : Table J :=
  let processedAt := dialect.bound (dialect.column processedAt)
  columns.updateById id
    (fun row => { row with
      status := .processed, leaseUntil := none, processedAt := some processedAt
      updatedAt := processedAt })
    table

/-- `now` is the reading the operation takes itself. -/
def markRetry (dialect : Dialect) (now : DateTime) (id : UUID) (error : String)
    (availableAt : DateTime) (table : Table J) : Table J :=
  let updatedAt := dialect.bound (dialect.column now)
  let availableAt := dialect.bound (dialect.column availableAt)
  columns.updateById id
    (fun row => { row with
      status := .pending, attempts := row.attempts + 1, availableAt, leaseUntil := none
      lastError := some error, updatedAt })
    table

/-- `now` is the reading the operation takes itself. -/
def markFailed (dialect : Dialect) (now : DateTime) (id : UUID) (error : String)
    (table : Table J) : Table J :=
  let updatedAt := dialect.bound (dialect.column now)
  columns.updateById id
    (fun row => { row with
      status := .failed, attempts := row.attempts + 1, leaseUntil := none
      lastError := some error, updatedAt })
    table

/-- The store as the retry decision sees it. -/
def retryStore (config : PactixConfig) (dialect : Dialect) (now : DateTime) :
    RetryStore (Table J) where
  retryPolicy := config.retryPolicy
  markRetry := markRetry dialect now
  markFailed := markFailed dialect now

end Pactix.Inbox
