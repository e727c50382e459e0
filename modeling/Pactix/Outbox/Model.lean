import Pactix.Dialect
import Pactix.Message

/-!
# Outbox status and in-memory record

A stored row and the record mapped from it have the same fields; the store
decides which datetimes they carry.  The status column is the enumeration
itself, as its check constraint admits no other text.
-/

namespace Pactix.Outbox

/-- Lifecycle state of an outbox row. -/
inductive OutboxStatus where
  | pending
  | processing
  | published
  | failed
  deriving DecidableEq, Repr

namespace OutboxStatus

def asStr : OutboxStatus → String
  | .pending => "pending"
  | .processing => "processing"
  | .published => "published"
  | .failed => "failed"

def fromStr (value : String) : Except Error OutboxStatus :=
  if value = "pending" then .ok .pending
  else if value = "processing" then .ok .processing
  else if value = "published" then .ok .published
  else if value = "failed" then .ok .failed
  else .error (.persistence ("unknown outbox status '" ++ value ++ "'"))

/-- Reading back the text of a state gives the state. -/
theorem fromStr_asStr (status : OutboxStatus) : fromStr status.asStr = .ok status := by
  cases status <;> rfl

end OutboxStatus

/-- A row of `outbox_message`, stored or in memory. -/
structure OutboxMessageRecord (J : Type) where
  id : UUID
  messageId : String
  eventType : String
  messageKey : Option String
  orderingKey : Option String
  correlationId : Option String
  payload : J
  headers : Headers
  status : OutboxStatus
  attempts : Int
  maxAttempts : Int
  availableAt : DateTime
  leaseUntil : Option DateTime
  lastError : Option String
  createdAt : DateTime
  updatedAt : DateTime
  publishedAt : Option DateTime
  deriving DecidableEq, Repr

namespace OutboxMessageRecord

variable {J : Type}

/-- The new record of a validated envelope. -/
def ofEnvelope (envelope : MessageEnvelope J) (retryPolicy : RetryPolicy) (id : UUID)
    (now : DateTime) : OutboxMessageRecord J where
  id
  messageId := envelope.metadata.messageId
  eventType := envelope.metadata.eventType
  messageKey := envelope.metadata.messageKey
  orderingKey := envelope.metadata.orderingKey
  correlationId := envelope.metadata.correlationId
  payload := envelope.payload
  headers := envelope.metadata.headers
  status := .pending
  attempts := 0
  maxAttempts := retryPolicy.maxAttempts
  availableAt := now
  leaseUntil := none
  lastError := none
  createdAt := now
  updatedAt := now
  publishedAt := none

/-- Create a new pending record from metadata and payload.  The generated id and
the clock reading are arguments. -/
def pending (metadata : MessageMetadata) (payload : J) (retryPolicy : RetryPolicy)
    (id : UUID) (now : DateTime) : Except Error (OutboxMessageRecord J) := do
  let envelope ← MessageEnvelope.make metadata payload
  return ofEnvelope envelope retryPolicy id now

end OutboxMessageRecord

end Pactix.Outbox
