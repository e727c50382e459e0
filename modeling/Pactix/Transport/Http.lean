import Pactix.Outbox.Publisher

/-!
# HTTP transport

Metadata travel in headers of their own.  Header names are compared in lower case on the
receiving side; `lower` is `str.lower`.
-/

namespace Pactix.Transport

open Outbox (OutboxMessageRecord PublishOutcome)

variable {J : Type}

/-! ## Header names -/

def eventTypeHeader := "x-pactix-event-type"
def messageIdHeader := "x-pactix-message-id"
def messageKeyHeader := "x-pactix-message-key"
def orderingKeyHeader := "x-pactix-ordering-key"
def correlationIdHeader := "x-pactix-correlation-id"

/-! ## Sending -/

/-- Per-event-type HTTP target. -/
structure HttpEndpoint where
  method : String
  url : String
  headers : Headers := .empty

/-- Resolves an endpoint from an event type. -/
structure HttpEndpointRouter where
  endpoints : String → Option HttpEndpoint := fun _ => none

def HttpEndpointRouter.register (router : HttpEndpointRouter) (eventType : String)
    (endpoint : HttpEndpoint) : HttpEndpointRouter where
  endpoints := Function.update router.endpoints eventType (some endpoint)

def HttpEndpointRouter.resolve (router : HttpEndpointRouter) (eventType : String) :
    Except Error HttpEndpoint :=
  match router.endpoints eventType with
  | some endpoint => .ok endpoint
  | none => .error (.routing ("no HTTP endpoint registered for '" ++ eventType ++ "'"))

/-- An outbound HTTP request built from an outbox row. -/
structure HttpOutboundRequest (J : Type) where
  method : String
  url : String
  payload : J
  headers : Headers := .empty

/-- The headers that carry metadata. -/
def httpMetadata (record : OutboxMessageRecord J) : List (String × Option String) :=
  [(messageIdHeader, some record.messageId), (eventTypeHeader, some record.eventType),
    (messageKeyHeader, record.messageKey), (orderingKeyHeader, record.orderingKey),
    (correlationIdHeader, record.correlationId)]

/-- The headers that the publisher sets, in its order. -/
def httpFields (record : OutboxMessageRecord J) : List (String × Option String) :=
  ("content-type", some "application/json") :: httpMetadata record

/-- `HttpOutboxPublisher.build_request`. -/
def buildRequest (router : HttpEndpointRouter) (record : OutboxMessageRecord J) :
    Except Error (HttpOutboundRequest J) := do
  let endpoint ← router.resolve record.eventType
  let headers := endpoint.headers.update record.headers
  return {
    method := endpoint.method
    url := endpoint.url
    payload := record.payload
    headers := headers.setPresent (httpFields record) }

/-! ## Receiving -/

/-- Metadata plus payload extracted from an HTTP request. -/
structure HttpInboundMessage (J : Type) where
  messageId : String
  eventType : String
  messageKey : Option String
  orderingKey : Option String
  correlationId : Option String
  headers : Headers
  payload : J

namespace HttpInboundMessage

/-- The header names in lower case; of names that collide, the last one wins. -/
def normalized (lower : String → String) (headers : Headers) : Headers :=
  .ofItems (headers.items.map fun item => (lower item.1, item.2))

def fromHeaders (lower : String → String) (headers : Headers) (payload : J) :
    Except Error (HttpInboundMessage J) := do
  let headers := normalized lower headers
  let some messageId := headers.get messageIdHeader
    | throw (.validation (messageIdHeader ++ " header is required"))
  let some eventType := headers.get eventTypeHeader
    | throw (.validation (eventTypeHeader ++ " header is required"))
  return {
    messageId
    eventType
    messageKey := headers.get messageKeyHeader
    orderingKey := headers.get orderingKeyHeader
    correlationId := headers.get correlationIdHeader
    headers
    payload }

def toEnvelope (message : HttpInboundMessage J) : Except Error (MessageEnvelope J) :=
  let metadata := {
    messageId := message.messageId
    eventType := message.eventType
    messageKey := message.messageKey
    orderingKey := message.orderingKey
    correlationId := message.correlationId
    headers := message.headers }
  MessageEnvelope.make metadata message.payload

end HttpInboundMessage

/-! ## Headers of a request as the receiver reads them -/

/-- Every header that the publisher sets is in lower case already. -/
def FixesFields (lower : String → String) : Prop :=
  ∀ name ∈ ["content-type", messageIdHeader, eventTypeHeader, messageKeyHeader,
    orderingKeyHeader, correlationIdHeader], lower name = name

instance (lower : String → String) : Decidable (FixesFields lower) :=
  inferInstanceAs (Decidable (∀ name ∈ _, _))

/-- The receiver reads the last header that is the name in lower case. -/
theorem get_normalized (lower : String → String) (headers : Headers) (name : String) :
    (HttpInboundMessage.normalized lower headers).get name =
      (Foundation.Dict.latest (fun other => decide (lower other = name)) headers.items).map
        Prod.snd := by
  unfold HttpInboundMessage.normalized Headers.ofItems Headers.get
  rw [Foundation.Dict.get_ofItems, Foundation.Dict.latest_rename, Option.map_map]
  rfl

/-- A metadata field survives the other headers.  An absent one meets no header of its
name, in whatever case.  A present one meets no header of exactly its name, or the last one
of its name in whatever case is the exact one or has its value. -/
def Survives (lower : String → String) (headers : Headers) (name : String) :
    Option String → Prop
  | none => ∀ other ∈ headers.items.map Prod.fst, lower other ≠ name
  | some value => name ∉ headers.items.map Prod.fst ∨
      ∃ item ∈ Foundation.Dict.latest (fun other => decide (lower other = name)) headers.items,
        item.1 = name ∨ item.2 = value

instance (lower : String → String) (headers : Headers) (name : String) (field : Option String) :
    Decidable (Survives lower headers name field) :=
  match field with
  | none => inferInstanceAs (Decidable (∀ other ∈ _, _))
  | some _ => inferInstanceAs (Decidable (_ ∨ _))

/-- A field is read back exactly when it survives. -/
theorem get_normalized_eq_iff {lower : String → String} (fixes : FixesFields lower)
    {record : OutboxMessageRecord J} {headers : Headers} {name : String}
    {field : Option String} (listed : (name, field) ∈ httpFields record) :
    (HttpInboundMessage.normalized lower (headers.setPresent (httpFields record))).get name =
      field ↔ Survives lower headers name field := by
  have names : ((httpFields record).map Prod.fst).Nodup := by
    simp only [httpFields, httpMetadata, List.map_cons, List.map_nil]
    decide
  have fixed : ∀ item ∈ httpFields record, lower item.1 = item.1 := by
    intro item membership
    exact fixes item.1 (List.mem_map_of_mem (f := Prod.fst) membership)
  have isWanted : decide (lower name = name) = true := decide_eq_true (fixed _ listed)
  rw [get_normalized]
  cases field with
  | some value =>
      apply Foundation.Dict.latest_setPresent_value headers.keys_nodup names listed isWanted
      intro item membership different
      rw [fixed item membership]
      exact decide_eq_false different
  | none =>
      have unchanged : Foundation.Dict.latest (fun other => decide (lower other = name))
          (headers.setPresent (httpFields record)).items =
            Foundation.Dict.latest (fun other => decide (lower other = name)) headers.items := by
        apply Foundation.Dict.latest_setPresent_of_not headers.keys_nodup
        rintro ⟨other, value⟩ membership present
        rw [fixed _ membership]
        refine decide_eq_false fun same => ?_
        have pair := List.inj_on_of_nodup_map names listed membership same.symm
        simp only [Prod.mk.injEq] at pair
        simp [← pair.2] at present
      rw [unchanged, Option.map_eq_none_iff, Foundation.Dict.latest_eq_none]
      simp [Survives]

end Pactix.Transport
