import Pactix.Inbox.Receiving
import Pactix.Transport.Http

/-!
# The HTTP inbox endpoint

The handler that `make_inbox_endpoint` builds, one request after the other.  Starlette's
part ends with the header map and the decoded JSON body of a request.
-/

namespace Pactix.Transport

open Foundation
open Inbox (Arrival ReceiveOutcome Table saveReceived)

variable {J : Type}

/-- A request, with the id that is generated and the time that the clock shows while it is
saved. -/
structure Request (J : Type) where
  headers : Headers
  payload : J
  id : UUID
  time : Int

structure Response where
  statusCode : Nat
  content : String := ""
  deriving DecidableEq, Repr

/-! ## Requests -/

namespace Request

variable (lower : String → String) (request : Request J)

/-- The value of a header in whatever case; of several, the last one. -/
def header (name : String) : Option String :=
  (Dict.latest (fun other => decide (lower other = name)) request.headers.items).map Prod.snd

/-- The required headers are there and not blank, and so is the ordering key if it is there. -/
def accepted : Bool :=
  (request.header lower messageIdHeader).any (fun value => !isBlank value) &&
    (request.header lower eventTypeHeader).any (fun value => !isBlank value) &&
    (request.header lower orderingKeyHeader).all fun value => !isBlank value

/-- The envelope that the endpoint makes of a request. -/
def envelope : Except Error (MessageEnvelope J) := do
  let message ← HttpInboundMessage.fromHeaders lower request.headers request.payload
  message.toEnvelope

end Request

/-! ## The handler -/

/-- Durable-receipt adapter for HTTP inbox flows.  Of its store only the configuration
matters. -/
structure HttpInboxEndpoint where
  source : String
  config : PactixConfig

namespace HttpInboxEndpoint

variable (endpoint : HttpInboxEndpoint) (dialect : Dialect)

/-- The transaction begins once the message is normalized. -/
def saveMessage (id : UUID) (time : Int) (message : HttpInboundMessage J) (table : Table J) :
    Except Error (Table J × ReceiveOutcome J) := do
  let envelope ← message.toEnvelope
  saveReceived endpoint.config dialect id (.utc time) endpoint.source envelope table

def save (lower : String → String) (request : Request J) (table : Table J) :
    Except Error (Table J × ReceiveOutcome J) := do
  let message ← HttpInboundMessage.fromHeaders lower request.headers request.payload
  endpoint.saveMessage dialect request.id request.time message table

/-- What the handler returns or raises, and the table after that: an error rolls the
transaction back. -/
def handler (lower : String → String) (request : Request J) (table : Table J) :
    Except Error Response × Table J :=
  match endpoint.save dialect lower request table with
  | .ok (table, _) => (.ok { statusCode := 202 }, table)
  | .error (.validation message) => (.ok ⟨400, message⟩, table)
  | .error (.persistence message) => (.ok ⟨500, message⟩, table)
  | .error (.routing message) => (.ok ⟨500, message⟩, table)
  | .error error => (.error error, table)

/-- The table after some requests, one after the other. -/
def serve (lower : String → String) (requests : List (Request J)) (table : Table J) : Table J :=
  requests.foldl (fun table request => (endpoint.handler dialect lower request table).2) table

end HttpInboxEndpoint

/-! ## Acceptance -/

namespace Request

variable {lower : String → String} {request : Request J}

/-- What the endpoint makes of a request that has the required headers. -/
theorem envelope_of_present {messageId eventType : String}
    (foundId : request.header lower messageIdHeader = some messageId)
    (foundType : request.header lower eventTypeHeader = some eventType) :
    request.envelope lower = MessageEnvelope.make {
      messageId
      eventType
      messageKey := request.header lower messageKeyHeader
      orderingKey := request.header lower orderingKeyHeader
      correlationId := request.header lower correlationIdHeader
      headers := HttpInboundMessage.normalized lower request.headers } request.payload := by
  simp only [header, ← get_normalized] at foundId foundType ⊢
  simp only [envelope, HttpInboundMessage.fromHeaders, foundId, foundType]
  rfl

theorem accepted_of_present {messageId eventType : String}
    (foundId : request.header lower messageIdHeader = some messageId)
    (foundType : request.header lower eventTypeHeader = some eventType) :
    request.accepted lower = (!isBlank messageId && !isBlank eventType &&
      !(request.header lower orderingKeyHeader).any isBlank) := by
  cases foundKey : request.header lower orderingKeyHeader <;>
    simp [accepted, foundId, foundType, foundKey]

/-- Without one of them a request is invalid. -/
theorem envelope_of_missing (missing : request.header lower messageIdHeader = none ∨
    request.header lower eventTypeHeader = none) :
    ∃ message, request.envelope lower = .error (.validation message) := by
  simp only [header, ← get_normalized] at missing
  simp only [envelope, HttpInboundMessage.fromHeaders]
  cases foundId : (HttpInboundMessage.normalized lower request.headers).get messageIdHeader with
  | none => exact ⟨_, rfl⟩
  | some messageId =>
      rcases missing with noId | noType
      · rw [foundId] at noId
        cases noId
      · rw [noType]
        exact ⟨_, rfl⟩

/-- An accepted request makes an envelope, and any other request is invalid. -/
theorem envelope_cases (lower : String → String) (request : Request J) :
    (request.accepted lower = true ∧ ∃ envelope, request.envelope lower = .ok envelope) ∨
      (request.accepted lower = false ∧
        ∃ message, request.envelope lower = .error (.validation message)) := by
  cases foundId : request.header lower messageIdHeader with
  | none => exact .inr ⟨by simp [accepted, foundId], envelope_of_missing (.inl foundId)⟩
  | some messageId =>
      cases foundType : request.header lower eventTypeHeader with
      | none => exact .inr ⟨by simp [accepted, foundType], envelope_of_missing (.inr foundType)⟩
      | some eventType =>
          rw [envelope_of_present foundId foundType, accepted_of_present foundId foundType]
          rcases MessageMetadata.validate_cases {
              messageId
              eventType
              messageKey := request.header lower messageKeyHeader
              orderingKey := request.header lower orderingKeyHeader
              correlationId := request.header lower correlationIdHeader
              headers := HttpInboundMessage.normalized lower request.headers } with
            ⟨valid, hasId, hasType, hasKey⟩ | ⟨⟨message, invalid⟩, blank⟩
          · refine .inl ⟨?_, _, MessageEnvelope.make_of_valid valid _⟩
            rw [hasId, hasType, hasKey]
            rfl
          · refine .inr ⟨?_, message, MessageEnvelope.make_of_invalid invalid _⟩
            rcases blank with noId | noType | noKey
            · simp [noId]
            · simp [noType]
            · simp [noKey]

/-- The fields of the envelope are the headers of the request. -/
theorem envelope_fields {envelope : MessageEnvelope J}
    (made : request.envelope lower = .ok envelope) :
    request.header lower messageIdHeader = some envelope.metadata.messageId ∧
      request.header lower eventTypeHeader = some envelope.metadata.eventType ∧
      envelope.metadata.messageKey = request.header lower messageKeyHeader ∧
      envelope.metadata.orderingKey = request.header lower orderingKeyHeader ∧
      envelope.metadata.correlationId = request.header lower correlationIdHeader ∧
      (∀ name, envelope.metadata.headers.get name = request.header lower name) ∧
      envelope.payload = request.payload := by
  cases foundId : request.header lower messageIdHeader with
  | none =>
      obtain ⟨message, missing⟩ := envelope_of_missing (.inl foundId)
      exact absurd (made.symm.trans missing) nofun
  | some messageId =>
      cases foundType : request.header lower eventTypeHeader with
      | none =>
          obtain ⟨message, missing⟩ := envelope_of_missing (.inr foundType)
          exact absurd (made.symm.trans missing) nofun
      | some eventType =>
          rw [envelope_of_present foundId foundType] at made
          obtain ⟨metadata, payload⟩ := MessageEnvelope.make_eq_ok made
          rw [metadata]
          exact ⟨rfl, rfl, rfl, rfl, rfl, get_normalized lower request.headers, payload⟩

end Request

/-! ## Answers -/

namespace HttpInboxEndpoint

variable {endpoint : HttpInboxEndpoint} {dialect : Dialect} {lower : String → String}
variable {request : Request J} {table : Table J}

/-- The receipt of a request that makes an envelope. -/
def arrival (endpoint : HttpInboxEndpoint) (request : Request J) (envelope : MessageEnvelope J) :
    Arrival J :=
  ⟨request.id, request.time, endpoint.source, envelope, endpoint.config⟩

theorem save_eq : endpoint.save dialect lower request table =
    (request.envelope lower).bind fun envelope =>
      saveReceived endpoint.config dialect request.id (.utc request.time) endpoint.source
        envelope table := by
  unfold save saveMessage Request.envelope
  cases HttpInboundMessage.fromHeaders lower request.headers request.payload <;> rfl

/-- A request that is not accepted is answered 400, and nothing is stored. -/
theorem handler_refused (endpoint : HttpInboxEndpoint) (dialect : Dialect) (table : Table J)
    (refused : request.accepted lower = false) :
    ∃ content, endpoint.handler dialect lower request table = (.ok ⟨400, content⟩, table) := by
  rcases request.envelope_cases lower with ⟨accepted, _⟩ | ⟨_, message, invalid⟩
  · rw [refused] at accepted
    cases accepted
  · refine ⟨message, ?_⟩
    rw [handler, save_eq, invalid]
    rfl

/-- A request whose message is received is answered 202. -/
theorem handler_received {envelope : MessageEnvelope J} {outcome : ReceiveOutcome J}
    {after : Table J} (made : request.envelope lower = .ok envelope)
    (received : Inbox.receive dialect (endpoint.arrival request envelope) table =
      (.ok outcome, after)) :
    endpoint.handler dialect lower request table = (.ok { statusCode := 202 }, after) := by
  have saved := Inbox.saveReceived_of_receive received
  rw [handler, save_eq, made, Except.bind]
  simp only [arrival] at saved
  rw [saved]

section Postgresql

variable {envelope : MessageEnvelope J} (notBlank : isBlank endpoint.source = false)
variable (made : request.envelope lower = .ok envelope)

include notBlank made

/-- On PostgreSQL a message that is there already is accepted again. -/
theorem handler_known
    (known : (endpoint.arrival request envelope).message ∈ table.map (·.message)) :
    endpoint.handler .postgresql lower request table = (.ok { statusCode := 202 }, table) := by
  let arrival := endpoint.arrival request envelope
  have sourced : isBlank arrival.source = false := notBlank
  obtain ⟨row, _, received⟩ := Inbox.receive_postgresql_known sourced known
  exact handler_received made received

/-- A new message adds the row of its request, unless the generated id is taken. -/
theorem handler_unknown
    (unknown : (endpoint.arrival request envelope).message ∉ table.map (·.message))
    (untaken : request.id ∉ table.map (·.id)) :
    endpoint.handler .postgresql lower request table = (.ok { statusCode := 202 },
      table ++ [Inbox.recordValues (endpoint.arrival request envelope).record .postgresql]) := by
  let arrival := endpoint.arrival request envelope
  have sourced : isBlank arrival.source = false := notBlank
  have free : arrival.id ∉ table.map (·.id) := untaken
  have received : Inbox.receive .postgresql arrival table = _ :=
    Inbox.receive_postgresql_unknown sourced unknown
  rw [if_neg free] at received
  exact handler_received made received

end Postgresql

end HttpInboxEndpoint

end Pactix.Transport
