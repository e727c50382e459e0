import Pactix.Codec
import Pactix.Inbox.Store

/-!
# Inbox rows as column values

The two functions of the inbox, with the columns of `inbox_message`.
-/

namespace Pactix.Inbox

open Foundation

variable {J : Type}

/-- The datetimes of a record. -/
def InboxMessageRecord.datetimes (record : InboxMessageRecord J) : List DateTime :=
  [record.availableAt, record.receivedAt, record.updatedAt] ++ record.leaseUntil.toList ++
    record.processedAt.toList

/-- `left == right` of two records. -/
structure InboxMessageRecord.Equal (left right : InboxMessageRecord J) : Prop where
  headers : left.headers.Equal right.headers
  availableAt : left.availableAt.Equal right.availableAt
  leaseUntil : Option.Rel DateTime.Equal left.leaseUntil right.leaseUntil
  receivedAt : left.receivedAt.Equal right.receivedAt
  updatedAt : left.updatedAt.Equal right.updatedAt
  processedAt : Option.Rel DateTime.Equal left.processedAt right.processedAt
  /-- All other fields are the same. -/
  others : left = { right with
    headers := left.headers
    availableAt := left.availableAt
    leaseUntil := left.leaseUntil
    receivedAt := left.receivedAt
    updatedAt := left.updatedAt
    processedAt := left.processedAt }

namespace Codec

/-- The values before datetimes are converted. -/
def values (record : InboxMessageRecord J) : RowMapping J :=
  [("id", .uuid record.id),
    ("source", .text record.source),
    ("message_id", .text record.messageId),
    ("event_type", .text record.eventType),
    ("message_key", .ofOption .text record.messageKey),
    ("ordering_key", .ofOption .text record.orderingKey),
    ("correlation_id", .ofOption .text record.correlationId),
    ("payload", .json record.payload),
    ("headers", .headers record.headers.sorted),
    ("status", .text record.status.asStr),
    ("attempts", .int record.attempts),
    ("max_attempts", .int record.maxAttempts),
    ("available_at", .datetime record.availableAt),
    ("lease_until", .ofOption .datetime record.leaseUntil),
    ("last_error", .ofOption .text record.lastError),
    ("received_at", .datetime record.receivedAt),
    ("updated_at", .datetime record.updatedAt),
    ("processed_at", .ofOption .datetime record.processedAt)]

def recordValues (record : InboxMessageRecord J) (dialect : Dialect) :
    Except Error (RowMapping J) :=
  match dialect with
  | .mysql =>
      (values record).naive
        ["available_at", "lease_until", "received_at", "updated_at", "processed_at"]
  | .postgresql => .ok (values record)

def mapRecord (row : RowMapping J) : Except Error (InboxMessageRecord J) := do
  return {
    id := ← row.read "id" Value.asUuid
    source := ← row.read "source" Value.asText
    messageId := ← row.read "message_id" Value.asText
    eventType := ← row.read "event_type" Value.asText
    messageKey := ← row.read "message_key" (Value.optional Value.asText)
    orderingKey := ← row.read "ordering_key" (Value.optional Value.asText)
    correlationId := ← row.read "correlation_id" (Value.optional Value.asText)
    payload := ← row.read "payload" Value.asJson
    headers := ← row.read "headers" Value.asHeaders
    status := ← InboxStatus.fromStr (← row.read "status" Value.asText)
    attempts := ← row.read "attempts" Value.asInt
    maxAttempts := ← row.read "max_attempts" Value.asInt
    availableAt := ← row.read "available_at" Value.asAwareUtc
    leaseUntil := ← row.read "lease_until" (Value.optional Value.asAwareUtc)
    lastError := ← row.read "last_error" (Value.optional Value.asText)
    receivedAt := ← row.read "received_at" Value.asAwareUtc
    updatedAt := ← row.read "updated_at" Value.asAwareUtc
    processedAt := ← row.read "processed_at" (Value.optional Value.asAwareUtc) }

/-- The dictionary has the values of the stored row. -/
theorem recordValues_eq (record : InboxMessageRecord J) (dialect : Dialect) :
    recordValues record dialect = .ok (values (Inbox.recordValues record dialect)) := by
  cases dialect with
  | postgresql =>
      simp [recordValues, values, Inbox.recordValues, column_postgresql]
  | mysql =>
      cases lease : record.leaseUntil <;> cases processed : record.processedAt <;>
        simp [recordValues, values, Inbox.recordValues, Dialect.column, RowMapping.naive,
          RowMapping.item, Dict.get, Dict.set, Value.ofOption, bind, Except.bind, lease, processed]

/-- A row that holds the values of a stored row is mapped as that row is, but for the order of
its headers. -/
theorem mapRecord_eq {record : InboxMessageRecord J} {row : RowMapping J}
    (returned : row.Returns (values record)) :
    ∃ headers : Headers, headers.items.Perm record.headers.sorted.items ∧
      mapRecord row = .ok { Inbox.mapRecord record with headers } := by
  obtain ⟨headers, read, permuted⟩ := returned.read_headers "headers" rfl
  refine ⟨headers, permuted, ?_⟩
  simp only [mapRecord, read,
    returned.read_eq "id" Value.asUuid (fun _ => rfl) rfl,
    returned.read_eq "source" Value.asText (fun _ => rfl) rfl,
    returned.read_eq "message_id" Value.asText (fun _ => rfl) rfl,
    returned.read_eq "event_type" Value.asText (fun _ => rfl) rfl,
    returned.read_eq "message_key" (Value.optional Value.asText) (fun _ => rfl) rfl,
    returned.read_eq "ordering_key" (Value.optional Value.asText) (fun _ => rfl) rfl,
    returned.read_eq "correlation_id" (Value.optional Value.asText) (fun _ => rfl) rfl,
    returned.read_eq "payload" Value.asJson (fun _ => rfl) rfl,
    returned.read_eq "status" Value.asText (fun _ => rfl) rfl,
    returned.read_eq "attempts" Value.asInt (fun _ => rfl) rfl,
    returned.read_eq "max_attempts" Value.asInt (fun _ => rfl) rfl,
    returned.read_eq "available_at" Value.asAwareUtc (fun _ => rfl) rfl,
    returned.read_eq "lease_until" (Value.optional Value.asAwareUtc) (fun _ => rfl) rfl,
    returned.read_eq "last_error" (Value.optional Value.asText) (fun _ => rfl) rfl,
    returned.read_eq "received_at" Value.asAwareUtc (fun _ => rfl) rfl,
    returned.read_eq "updated_at" Value.asAwareUtc (fun _ => rfl) rfl,
    returned.read_eq "processed_at" (Value.optional Value.asAwareUtc) (fun _ => rfl) rfl,
    Value.optional_text, Value.optional_awareUtc]
  simp only [Value.asUuid, Value.asText, Value.asInt, Value.asJson, Value.asAwareUtc, bind,
    Except.bind, InboxStatus.fromStr_asStr]
  rfl

/-- Whatever is stored of a record whose datetimes are aware is mapped to an equal record. -/
theorem mapRecord_recordValues (dialect : Dialect) {record : InboxMessageRecord J}
    (aware : ∀ time ∈ record.datetimes, time.utcoffset.isSome = true) :
    ∃ values, recordValues record dialect = .ok values ∧ ∀ row : RowMapping J,
      row.Returns values → ∃ read, mapRecord row = .ok read ∧ read.Equal record := by
  refine ⟨_, recordValues_eq record dialect, fun row returned => ?_⟩
  obtain ⟨headers, permuted, mapped⟩ := mapRecord_eq returned
  simp only [InboxMessageRecord.datetimes, List.mem_append, List.mem_cons, List.not_mem_nil,
    or_false, Option.mem_toList] at aware
  refine ⟨_, mapped, ?_⟩
  constructor
  case headers =>
    have stored : headers.Equal record.headers.sorted.sorted := permuted
    rw [Headers.sorted_sorted] at stored
    exact stored.trans record.headers.sorted_equal
  case availableAt => exact equal_column dialect (aware _ (by simp))
  case receivedAt => exact equal_column dialect (aware _ (by simp))
  case updatedAt => exact equal_column dialect (aware _ (by simp))
  case leaseUntil => exact rel_equal_column dialect fun time set => aware time (.inl (.inr set))
  case processedAt => exact rel_equal_column dialect fun time set => aware time (.inr set)
  case others => rfl

/-- The queries compare the columns of two rows, and of a row with `now`, as the instants of
the records. -/
structure ComparesInstants (record other : InboxMessageRecord J) (now : DateTime)
    (row otherRow : RowMapping J) : Prop where
  due : (row.column "available_at").atMost (.datetime (naiveUtc now)) =
    some (decide (record.availableAt.instant ≤ now.instant))
  expired : (row.column "lease_until").less (.datetime (naiveUtc now)) =
    record.leaseUntil.map fun lease => decide (lease.instant < now.instant)
  older : (row.column "received_at").less (otherRow.column "received_at") =
    some (decide (record.receivedAt.instant < other.receivedAt.instant))
  ordered : (row.column "received_at").atMost (otherRow.column "received_at") =
    some (decide (record.receivedAt.instant ≤ other.receivedAt.instant))

theorem comparesInstants {record other : InboxMessageRecord J} (now : DateTime)
    {row otherRow : RowMapping J} (stored : recordValues record .mysql = .ok row)
    (otherStored : recordValues other .mysql = .ok otherRow) :
    ComparesInstants record other now row otherRow := by
  rw [recordValues_eq] at stored otherStored
  obtain rfl := Except.ok.inj stored
  obtain rfl := Except.ok.inj otherStored
  constructor
  case expired => cases lease : record.leaseUntil <;> simp [lease, values, RowMapping.column,
    Dict.get, Inbox.recordValues, Value.ofOption, Value.less, naiveUtc, Dialect.column]
  case due => rfl
  case older => rfl
  case ordered => rfl

end Codec

end Pactix.Inbox
