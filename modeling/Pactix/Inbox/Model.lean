import Pactix.Dialect
import Pactix.Message

/-!
# Inbox status and in-memory record
-/

namespace Pactix.Inbox

/-- Lifecycle state of an inbox row. -/
inductive InboxStatus where
  | pending
  | processing
  | processed
  | failed
  deriving DecidableEq, Repr

namespace InboxStatus

def asStr : InboxStatus → String
  | .pending => "pending"
  | .processing => "processing"
  | .processed => "processed"
  | .failed => "failed"

def fromStr (value : String) : Except Error InboxStatus :=
  if value = "pending" then .ok .pending
  else if value = "processing" then .ok .processing
  else if value = "processed" then .ok .processed
  else if value = "failed" then .ok .failed
  else .error (.persistence ("unknown inbox status '" ++ value ++ "'"))

/-- Reading back the text of a state gives the state. -/
theorem fromStr_asStr (status : InboxStatus) : fromStr status.asStr = .ok status := by
  cases status <;> rfl

end InboxStatus

/-- A row of `inbox_message`, stored or in memory. -/
structure InboxMessageRecord (J : Type) where
  id : UUID
  source : String
  messageId : String
  eventType : String
  messageKey : Option String
  orderingKey : Option String
  correlationId : Option String
  payload : J
  headers : Headers
  status : InboxStatus
  attempts : Int
  maxAttempts : Int
  availableAt : DateTime
  leaseUntil : Option DateTime
  lastError : Option String
  receivedAt : DateTime
  updatedAt : DateTime
  processedAt : Option DateTime
  deriving DecidableEq, Repr

namespace InboxMessageRecord

variable {J : Type}

/-- The new record of a validated envelope. -/
def ofEnvelope (source : String) (envelope : MessageEnvelope J) (retryPolicy : RetryPolicy)
    (id : UUID) (now : DateTime) : InboxMessageRecord J where
  id
  source
  messageId := envelope.metadata.messageId
  eventType := envelope.metadata.eventType
  messageKey := envelope.metadata.messageKey
  orderingKey := envelope.metadata.orderingKey
  correlationId := envelope.metadata.correlationId
  payload := envelope.payload
  headers := envelope.metadata.headers
  status := .pending
  attempts := 0
  maxAttempts := retryPolicy.maxAttempts
  availableAt := now
  leaseUntil := none
  lastError := none
  receivedAt := now
  updatedAt := now
  processedAt := none

/-- Create a new pending record after validating source and envelope. -/
def pending (source : String) (metadata : MessageMetadata) (payload : J)
    (retryPolicy : RetryPolicy) (id : UUID) (now : DateTime) :
    Except Error (InboxMessageRecord J) := do
  if isBlank source then
    throw (.validation "source must not be empty")
  let envelope ← MessageEnvelope.make metadata payload
  return ofEnvelope source envelope retryPolicy id now

end InboxMessageRecord

end Pactix.Inbox
