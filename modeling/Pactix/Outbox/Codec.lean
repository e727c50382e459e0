import Pactix.Codec
import Pactix.Outbox.Store

/-!
# Outbox rows as column values

`_record_values` and `_map_record` as they list the columns by hand.  The store's own
`recordValues` and `mapRecord` are what the two come to.
-/

namespace Pactix.Outbox

open Foundation

variable {J : Type}

/-- The datetimes of a record. -/
def OutboxMessageRecord.datetimes (record : OutboxMessageRecord J) : List DateTime :=
  [record.availableAt, record.createdAt, record.updatedAt] ++ record.leaseUntil.toList ++
    record.publishedAt.toList

/-- `left == right` of two records. -/
structure OutboxMessageRecord.Equal (left right : OutboxMessageRecord J) : Prop where
  headers : left.headers.Equal right.headers
  availableAt : left.availableAt.Equal right.availableAt
  leaseUntil : Option.Rel DateTime.Equal left.leaseUntil right.leaseUntil
  createdAt : left.createdAt.Equal right.createdAt
  updatedAt : left.updatedAt.Equal right.updatedAt
  publishedAt : Option.Rel DateTime.Equal left.publishedAt right.publishedAt
  /-- All other fields are the same. -/
  others : left = { right with
    headers := left.headers
    availableAt := left.availableAt
    leaseUntil := left.leaseUntil
    createdAt := left.createdAt
    updatedAt := left.updatedAt
    publishedAt := left.publishedAt }

namespace Codec

/-- The values before datetimes are converted. -/
def values (record : OutboxMessageRecord J) : RowMapping J :=
  [("id", .uuid record.id),
    ("message_id", .text record.messageId),
    ("event_type", .text record.eventType),
    ("message_key", .ofOption .text record.messageKey),
    ("ordering_key", .ofOption .text record.orderingKey),
    ("correlation_id", .ofOption .text record.correlationId),
    ("payload", .json record.payload),
    ("headers", .headers record.headers.sorted),
    ("status", .text record.status.asStr),
    ("attempts", .int record.attempts),
    ("max_attempts", .int record.maxAttempts),
    ("available_at", .datetime record.availableAt),
    ("lease_until", .ofOption .datetime record.leaseUntil),
    ("last_error", .ofOption .text record.lastError),
    ("created_at", .datetime record.createdAt),
    ("updated_at", .datetime record.updatedAt),
    ("published_at", .ofOption .datetime record.publishedAt)]

def recordValues (record : OutboxMessageRecord J) (dialect : Dialect) :
    Except Error (RowMapping J) :=
  match dialect with
  | .mysql =>
      (values record).naive
        ["available_at", "lease_until", "created_at", "updated_at", "published_at"]
  | .postgresql => .ok (values record)

def mapRecord (row : RowMapping J) : Except Error (OutboxMessageRecord J) := do
  return {
    id := ← row.read "id" Value.asUuid
    messageId := ← row.read "message_id" Value.asText
    eventType := ← row.read "event_type" Value.asText
    messageKey := ← row.read "message_key" (Value.optional Value.asText)
    orderingKey := ← row.read "ordering_key" (Value.optional Value.asText)
    correlationId := ← row.read "correlation_id" (Value.optional Value.asText)
    payload := ← row.read "payload" Value.asJson
    headers := ← row.read "headers" Value.asHeaders
    status := ← OutboxStatus.fromStr (← row.read "status" Value.asText)
    attempts := ← row.read "attempts" Value.asInt
    maxAttempts := ← row.read "max_attempts" Value.asInt
    availableAt := ← row.read "available_at" Value.asAwareUtc
    leaseUntil := ← row.read "lease_until" (Value.optional Value.asAwareUtc)
    lastError := ← row.read "last_error" (Value.optional Value.asText)
    createdAt := ← row.read "created_at" Value.asAwareUtc
    updatedAt := ← row.read "updated_at" Value.asAwareUtc
    publishedAt := ← row.read "published_at" (Value.optional Value.asAwareUtc) }

/-- The dictionary has the values of the stored row. -/
theorem recordValues_eq (record : OutboxMessageRecord J) (dialect : Dialect) :
    recordValues record dialect = .ok (values (Outbox.recordValues record dialect)) := by
  cases dialect with
  | postgresql =>
      simp [recordValues, values, Outbox.recordValues, column_postgresql]
  | mysql =>
      cases lease : record.leaseUntil <;> cases published : record.publishedAt <;>
        simp [recordValues, values, Outbox.recordValues, Dialect.column, RowMapping.naive,
          RowMapping.item, Dict.get, Dict.set, Value.ofOption, bind, Except.bind, lease, published]

/-- A row that holds the values of a stored row is mapped as that row is, but for the order of
its headers. -/
theorem mapRecord_eq {record : OutboxMessageRecord J} {row : RowMapping J}
    (returned : row.Returns (values record)) :
    ∃ headers : Headers, headers.items.Perm record.headers.sorted.items ∧
      mapRecord row = .ok { Outbox.mapRecord record with headers } := by
  obtain ⟨headers, read, permuted⟩ := returned.read_headers "headers" rfl
  refine ⟨headers, permuted, ?_⟩
  simp only [mapRecord, read,
    returned.read_eq "id" Value.asUuid (fun _ => rfl) rfl,
    returned.read_eq "message_id" Value.asText (fun _ => rfl) rfl,
    returned.read_eq "event_type" Value.asText (fun _ => rfl) rfl,
    returned.read_eq "message_key" (Value.optional Value.asText) (fun _ => rfl) rfl,
    returned.read_eq "ordering_key" (Value.optional Value.asText) (fun _ => rfl) rfl,
    returned.read_eq "correlation_id" (Value.optional Value.asText) (fun _ => rfl) rfl,
    returned.read_eq "payload" Value.asJson (fun _ => rfl) rfl,
    returned.read_eq "status" Value.asText (fun _ => rfl) rfl,
    returned.read_eq "attempts" Value.asInt (fun _ => rfl) rfl,
    returned.read_eq "max_attempts" Value.asInt (fun _ => rfl) rfl,
    returned.read_eq "available_at" Value.asAwareUtc (fun _ => rfl) rfl,
    returned.read_eq "lease_until" (Value.optional Value.asAwareUtc) (fun _ => rfl) rfl,
    returned.read_eq "last_error" (Value.optional Value.asText) (fun _ => rfl) rfl,
    returned.read_eq "created_at" Value.asAwareUtc (fun _ => rfl) rfl,
    returned.read_eq "updated_at" Value.asAwareUtc (fun _ => rfl) rfl,
    returned.read_eq "published_at" (Value.optional Value.asAwareUtc) (fun _ => rfl) rfl,
    Value.optional_text, Value.optional_awareUtc]
  simp only [Value.asUuid, Value.asText, Value.asInt, Value.asJson, Value.asAwareUtc, bind,
    Except.bind, OutboxStatus.fromStr_asStr]
  rfl

/-- Whatever is stored of a record whose datetimes are aware is mapped to an equal record. -/
theorem mapRecord_recordValues (dialect : Dialect) {record : OutboxMessageRecord J}
    (aware : ∀ time ∈ record.datetimes, time.utcoffset.isSome = true) :
    ∃ values, recordValues record dialect = .ok values ∧ ∀ row : RowMapping J,
      row.Returns values → ∃ read, mapRecord row = .ok read ∧ read.Equal record := by
  refine ⟨_, recordValues_eq record dialect, fun row returned => ?_⟩
  obtain ⟨headers, permuted, mapped⟩ := mapRecord_eq returned
  simp only [OutboxMessageRecord.datetimes, List.mem_append, List.mem_cons, List.not_mem_nil,
    or_false, Option.mem_toList] at aware
  refine ⟨_, mapped, ?_⟩
  constructor
  case headers =>
    have stored : headers.Equal record.headers.sorted.sorted := permuted
    rw [Headers.sorted_sorted] at stored
    exact stored.trans record.headers.sorted_equal
  case availableAt => exact equal_column dialect (aware _ (by simp))
  case createdAt => exact equal_column dialect (aware _ (by simp))
  case updatedAt => exact equal_column dialect (aware _ (by simp))
  case leaseUntil => exact rel_equal_column dialect fun time set => aware time (.inl (.inr set))
  case publishedAt => exact rel_equal_column dialect fun time set => aware time (.inr set)
  case others => rfl

/-- The queries compare the columns of two rows, and of a row with `now`, as the instants of
the records. -/
structure ComparesInstants (record other : OutboxMessageRecord J) (now : DateTime)
    (row otherRow : RowMapping J) : Prop where
  due : (row.column "available_at").atMost (.datetime (naiveUtc now)) =
    some (decide (record.availableAt.instant ≤ now.instant))
  expired : (row.column "lease_until").less (.datetime (naiveUtc now)) =
    record.leaseUntil.map fun lease => decide (lease.instant < now.instant)
  older : (row.column "created_at").less (otherRow.column "created_at") =
    some (decide (record.createdAt.instant < other.createdAt.instant))
  ordered : (row.column "created_at").atMost (otherRow.column "created_at") =
    some (decide (record.createdAt.instant ≤ other.createdAt.instant))

theorem comparesInstants {record other : OutboxMessageRecord J} (now : DateTime)
    {row otherRow : RowMapping J} (stored : recordValues record .mysql = .ok row)
    (otherStored : recordValues other .mysql = .ok otherRow) :
    ComparesInstants record other now row otherRow := by
  rw [recordValues_eq] at stored otherStored
  obtain rfl := Except.ok.inj stored
  obtain rfl := Except.ok.inj otherStored
  constructor
  case expired => cases lease : record.leaseUntil <;> simp [lease, values, RowMapping.column,
    Dict.get, Outbox.recordValues, Value.ofOption, Value.less, naiveUtc, Dialect.column]
  case due => rfl
  case older => rfl
  case ordered => rfl

end Codec

end Pactix.Outbox
