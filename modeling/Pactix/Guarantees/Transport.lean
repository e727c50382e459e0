import Pactix.Transport.Http
import Pactix.Transport.Kafka

/-!
# Envelopes across a transport

What an inbound adapter makes of the messages that the outbound adapter of the same
transport builds.
-/

namespace Pactix.Outbox

/-- The metadata that a record was made from. -/
def OutboxMessageRecord.metadata {J : Type} (record : OutboxMessageRecord J) :
    MessageMetadata where
  messageId := record.messageId
  eventType := record.eventType
  messageKey := record.messageKey
  orderingKey := record.orderingKey
  correlationId := record.correlationId
  headers := record.headers

end Pactix.Outbox

namespace Pactix.Guarantees

open Outbox (OutboxMessageRecord)
open Transport

variable {J : Type}

/-- An envelope has the metadata fields and the payload of a record. -/
structure Restores (record : OutboxMessageRecord J) (envelope : MessageEnvelope J) : Prop where
  messageId : envelope.metadata.messageId = record.messageId
  eventType : envelope.metadata.eventType = record.eventType
  messageKey : envelope.metadata.messageKey = record.messageKey
  orderingKey : envelope.metadata.orderingKey = record.orderingKey
  correlationId : envelope.metadata.correlationId = record.correlationId
  payload : envelope.payload = record.payload

/-! ## Kafka -/

/-- Wherever the record is delivered, the consumer makes an envelope with its fields, and
with its headers other than the reserved ones. -/
def KafkaRoundTrips (codec : JsonCodec J) (router : KafkaTopicRouter)
    (record : OutboxMessageRecord J) : Prop :=
  ∀ topic partition offset, ∃ message inbound envelope,
    buildMessage codec router record = .ok message ∧
    KafkaInboundMessage.fromRecord codec ((send message).delivered topic partition offset) =
      .ok inbound ∧
    inbound.toEnvelope = .ok envelope ∧ Restores record envelope ∧
    ∀ name ∉ (kafkaMetadata record).map Prod.fst,
      envelope.metadata.headers.get name = record.headers.get name

/-- No header stands in for an absent key. -/
structure NoKafkaStandIn (record : OutboxMessageRecord J) : Prop where
  orderingKey : record.orderingKey = none → record.headers.get "ordering_key" = none
  correlationId : record.correlationId = none → record.headers.get "correlation_id" = none

section Kafka

variable {codec : JsonCodec J} {router : KafkaTopicRouter} {record : OutboxMessageRecord J}

/-- The headers of the produced message. -/
abbrev kafkaHeaders (record : OutboxMessageRecord J) : Headers :=
  record.headers.setPresent (kafkaMetadata record)

/-- A metadata field is found under its header name if it is present; otherwise a header
of the record is. -/
theorem get_kafkaHeaders (name : String) (field : Option String)
    (listed : (name, field) ∈ kafkaMetadata record) :
    (kafkaHeaders record).get name = field.or (record.headers.get name) := by
  have names : ((kafkaMetadata record).map Prod.fst).Nodup := by
    simp [kafkaMetadata]
  cases field with
  | some value => exact Headers.get_setPresent names listed
  | none =>
      apply Headers.get_setPresent_of_not
      rintro ⟨other, value⟩ otherListed present rfl
      have same := List.inj_on_of_nodup_map names listed otherListed rfl
      simp only [Prod.mk.injEq, true_and] at same
      simp [← same] at present

/-- What the consumer makes of the produced message. -/
theorem toEnvelope_produced (valid : record.metadata.validate = .ok ())
    (topic : String) (partition offset : Int) :
    (KafkaInboundMessage.mk topic partition offset record.messageKey record.payload
        (kafkaHeaders record)).toEnvelope =
      MessageEnvelope.make
        { messageId := record.messageId
          eventType := record.eventType
          messageKey := record.messageKey
          orderingKey := record.orderingKey.or (record.headers.get "ordering_key")
          correlationId := record.correlationId.or (record.headers.get "correlation_id")
          headers := kafkaHeaders record } record.payload := by
  have messageId : (kafkaHeaders record).get "message_id" = some record.messageId :=
    get_kafkaHeaders _ (some record.messageId) (by simp [kafkaMetadata])
  have eventType : (kafkaHeaders record).get "event_type" = some record.eventType :=
    get_kafkaHeaders _ (some record.eventType) (by simp [kafkaMetadata])
  have orderingKey : (kafkaHeaders record).get "ordering_key" = _ :=
    get_kafkaHeaders _ record.orderingKey (by simp [kafkaMetadata])
  have correlationId : (kafkaHeaders record).get "correlation_id" = _ :=
    get_kafkaHeaders _ record.correlationId (by simp [kafkaMetadata])
  have notEmpty : record.messageId ≠ "" := by
    intro empty
    simp [MessageMetadata.validate, OutboxMessageRecord.metadata, empty, isBlank] at valid
  simp only [KafkaInboundMessage.toEnvelope, KafkaInboundMessage.messageId, messageId, eventType,
    orderingKey, correlationId, notEmpty, if_false]

theorem buildMessage_routed (codec : JsonCodec J)
    (routed : (router.topics record.eventType).isSome = true) :
    ∃ topic, buildMessage codec router record =
      .ok ⟨topic, record.messageKey, codec.dumps record.payload, kafkaHeaders record⟩ := by
  obtain ⟨topic, route⟩ := Option.isSome_iff_exists.mp routed
  refine ⟨topic, ?_⟩
  simp only [buildMessage, KafkaTopicRouter.resolve, route]
  rfl

/-- The consumer reads a header that stands in for an absent key as the key. -/
theorem noKafkaStandIn (valid : record.metadata.validate = .ok ())
    (routed : (router.topics record.eventType).isSome = true)
    (roundTrips : KafkaRoundTrips codec router record) : NoKafkaStandIn record := by
  obtain ⟨topic, built⟩ := buildMessage_routed codec routed
  obtain ⟨message, inbound, envelope, produced, decoded, made, restores, _⟩ :=
    roundTrips topic 0 0
  obtain rfl := Except.ok.inj (built.symm.trans produced)
  rw [fromRecord_delivered codec _ record.payload rfl] at decoded
  obtain rfl := Except.ok.inj decoded
  rw [toEnvelope_produced valid] at made
  obtain ⟨metadata, _⟩ := MessageEnvelope.make_eq_ok made
  have orderingKey := restores.orderingKey
  have correlationId := restores.correlationId
  rw [metadata] at orderingKey correlationId
  constructor
  · intro absent
    simpa [absent] using orderingKey
  · intro absent
    simpa [absent] using correlationId

/-- Without such headers the envelope is restored. -/
theorem kafkaRoundTrips (valid : record.metadata.validate = .ok ())
    (routed : (router.topics record.eventType).isSome = true)
    (noStandIn : NoKafkaStandIn record) : KafkaRoundTrips codec router record := by
  obtain ⟨registered, built⟩ := buildMessage_routed codec routed
  intro topic partition offset
  have orderingKey : record.orderingKey.or (record.headers.get "ordering_key") =
      record.orderingKey := by
    cases key : record.orderingKey with
    | none => rw [noStandIn.orderingKey key, Option.or_none]
    | some value => rfl
  have correlationId : record.correlationId.or (record.headers.get "correlation_id") =
      record.correlationId := by
    cases correlation : record.correlationId with
    | none => rw [noStandIn.correlationId correlation, Option.or_none]
    | some value => rfl
  have decoded := fromRecord_delivered codec
    ⟨registered, record.messageKey, codec.dumps record.payload, kafkaHeaders record⟩
    record.payload rfl topic partition offset
  have made := toEnvelope_produced valid topic partition offset
  rw [orderingKey, correlationId, MessageEnvelope.make_of_valid] at made
  · refine ⟨_, _, _, built, decoded, made, ⟨rfl, rfl, rfl, rfl, rfl, rfl⟩, fun name other => ?_⟩
    apply Headers.get_setPresent_of_not
    rintro field listed _ rfl
    exact other (List.mem_map_of_mem listed)
  · exact valid

end Kafka

/-- Across Kafka a record keeps its fields exactly when no header of the record stands in
for its absent ordering key or correlation id. -/
theorem kafka_round_trip_iff (codec : JsonCodec J) (router : KafkaTopicRouter)
    (record : OutboxMessageRecord J) (valid : record.metadata.validate = .ok ())
    (routed : (router.topics record.eventType).isSome = true) :
    KafkaRoundTrips codec router record ↔ NoKafkaStandIn record :=
  ⟨noKafkaStandIn valid routed, kafkaRoundTrips valid routed⟩

/-- The codec of the one payload `None`. -/
def nullCodec : JsonCodec Unit where
  dumps _ := "null"
  loads value :=
    if value.data = "null".toUTF8.data then .ok () else .error (.other "JSONDecodeError")
  loads_dumps _ := if_pos rfl

def ordersRouter : KafkaTopicRouter := KafkaTopicRouter.register {} "order" "orders"

/-- A record without ordering key whose headers were taken over from a consumed message. -/
def relayed : OutboxMessageRecord Unit where
  id := 1
  messageId := "m1"
  eventType := "order"
  messageKey := none
  orderingKey := none
  correlationId := some "c1"
  payload := ()
  headers := .ofItems [("ordering_key", "customer"), ("trace", "t1"), ("correlation_id", "c0")]
  status := .pending
  attempts := 0
  maxAttempts := 10
  availableAt := .utc 0
  leaseUntil := none
  lastError := none
  createdAt := .utc 0
  updatedAt := .utc 0
  publishedAt := none

theorem kafka_round_trip_iff_sample :
    let record := { relayed with orderingKey := some "depot" };
    KafkaRoundTrips nullCodec ordersRouter record ∧ NoKafkaStandIn record := by
  have noStandIn : NoKafkaStandIn { relayed with orderingKey := some "depot" } :=
    ⟨by simp, by simp [relayed]⟩
  exact ⟨(kafka_round_trip_iff nullCodec ordersRouter _ (by decide) (by decide)).mpr noStandIn,
    noStandIn⟩

/-- The header arrives as an ordering key that the record does not have. -/
theorem relayed_key_appears : ¬KafkaRoundTrips nullCodec ordersRouter relayed := by
  intro roundTrips
  have absent := (noKafkaStandIn (by decide) (by decide) roundTrips).orderingKey rfl
  exact absurd absent (by decide)

/-! ## HTTP -/

/-- The receiver makes an envelope with the fields of the record. -/
def HttpRoundTrips (lower : String → String) (router : HttpEndpointRouter)
    (record : OutboxMessageRecord J) : Prop :=
  ∃ request inbound envelope, buildRequest router record = .ok request ∧
    HttpInboundMessage.fromHeaders lower request.headers request.payload = .ok inbound ∧
    inbound.toEnvelope = .ok envelope ∧ Restores record envelope

/-- Every metadata field survives the headers of the endpoint and of the record. -/
def FieldsSurvive (lower : String → String) (endpoint : HttpEndpoint)
    (record : OutboxMessageRecord J) : Prop :=
  ∀ field ∈ httpMetadata record,
    Survives lower (endpoint.headers.update record.headers) field.1 field.2

instance (lower : String → String) (endpoint : HttpEndpoint) (record : OutboxMessageRecord J) :
    Decidable (FieldsSurvive lower endpoint record) :=
  inferInstanceAs (Decidable (∀ field ∈ _, _))

section Http

variable {lower : String → String} {router : HttpEndpointRouter} {endpoint : HttpEndpoint}
variable {record : OutboxMessageRecord J}

/-- The headers of the request as the receiver reads them. -/
abbrev httpHeaders (lower : String → String) (endpoint : HttpEndpoint)
    (record : OutboxMessageRecord J) : Headers :=
  HttpInboundMessage.normalized lower
    ((endpoint.headers.update record.headers).setPresent (httpFields record))

theorem fieldsSurvive_iff (fixes : FixesFields lower) :
    FieldsSurvive lower endpoint record ↔
      ∀ field ∈ httpMetadata record, (httpHeaders lower endpoint record).get field.1 = field.2 := by
  apply forall₂_congr
  intro field listed
  exact (get_normalized_eq_iff fixes (List.mem_cons_of_mem _ listed)).symm

theorem buildRequest_routed (routed : router.endpoints record.eventType = some endpoint) :
    buildRequest router record = .ok {
      method := endpoint.method
      url := endpoint.url
      payload := record.payload
      headers := (endpoint.headers.update record.headers).setPresent (httpFields record) } := by
  simp only [buildRequest, HttpEndpointRouter.resolve, routed]
  rfl

/-- The fields of an envelope that was decoded are those that the receiver reads. -/
theorem decoded_fields {headers : Headers} {payload : J} {inbound : HttpInboundMessage J}
    {envelope : MessageEnvelope J}
    (decoded : HttpInboundMessage.fromHeaders lower headers payload = .ok inbound)
    (made : inbound.toEnvelope = .ok envelope) :
    let read := (HttpInboundMessage.normalized lower headers).get
    read messageIdHeader = some envelope.metadata.messageId ∧
      read eventTypeHeader = some envelope.metadata.eventType ∧
      read messageKeyHeader = envelope.metadata.messageKey ∧
      read orderingKeyHeader = envelope.metadata.orderingKey ∧
      read correlationIdHeader = envelope.metadata.correlationId := by
  obtain ⟨metadata, _⟩ := MessageEnvelope.make_eq_ok made
  cases foundId : (HttpInboundMessage.normalized lower headers).get messageIdHeader with
  | none =>
      rw [HttpInboundMessage.fromHeaders] at decoded
      simp only [foundId] at decoded
      exact absurd decoded (by simp [throw, throwThe, MonadExceptOf.throw])
  | some messageId =>
      cases foundType : (HttpInboundMessage.normalized lower headers).get eventTypeHeader with
      | none =>
          rw [HttpInboundMessage.fromHeaders] at decoded
          simp only [foundId, foundType] at decoded
          exact absurd decoded (by simp [throw, throwThe, MonadExceptOf.throw])
      | some eventType =>
          rw [HttpInboundMessage.fromHeaders] at decoded
          simp only [foundId, foundType] at decoded
          obtain rfl := Except.ok.inj decoded
          rw [metadata]
          exact ⟨foundId, foundType, rfl, rfl, rfl⟩

/-- A record whose fields survive is restored. -/
theorem httpRoundTrips (fixes : FixesFields lower) (valid : record.metadata.validate = .ok ())
    (routed : router.endpoints record.eventType = some endpoint)
    (survive : FieldsSurvive lower endpoint record) : HttpRoundTrips lower router record := by
  rw [fieldsSurvive_iff fixes] at survive
  simp only [httpMetadata, List.forall_mem_cons] at survive
  obtain ⟨messageId, eventType, messageKey, orderingKey, correlationId, _⟩ := survive
  have decoded : HttpInboundMessage.fromHeaders lower
      ((endpoint.headers.update record.headers).setPresent (httpFields record)) record.payload =
        .ok {
          messageId := record.messageId
          eventType := record.eventType
          messageKey := record.messageKey
          orderingKey := record.orderingKey
          correlationId := record.correlationId
          headers := httpHeaders lower endpoint record
          payload := record.payload } := by
    simp only [HttpInboundMessage.fromHeaders, messageId, eventType, messageKey, orderingKey,
      correlationId]
    rfl
  have validHere : MessageMetadata.validate
      { record.metadata with headers := httpHeaders lower endpoint record } = .ok () := valid
  exact ⟨_, _, _, buildRequest_routed routed, decoded,
    MessageEnvelope.make_of_valid validHere record.payload, ⟨rfl, rfl, rfl, rfl, rfl, rfl⟩⟩

/-- The fields of a restored record have survived. -/
theorem fieldsSurvive (fixes : FixesFields lower)
    (routed : router.endpoints record.eventType = some endpoint)
    (roundTrips : HttpRoundTrips lower router record) : FieldsSurvive lower endpoint record := by
  obtain ⟨request, inbound, envelope, built, decoded, made, restores⟩ := roundTrips
  obtain rfl := Except.ok.inj ((buildRequest_routed routed).symm.trans built)
  obtain ⟨messageId, eventType, messageKey, orderingKey, correlationId⟩ :=
    decoded_fields decoded made
  rw [fieldsSurvive_iff fixes]
  simp only [httpMetadata, List.forall_mem_cons]
  refine ⟨?_, ?_, ?_, ?_, ?_, by simp⟩
  · rw [messageId, restores.messageId]
  · rw [eventType, restores.eventType]
  · rw [messageKey, restores.messageKey]
  · rw [orderingKey, restores.orderingKey]
  · rw [correlationId, restores.correlationId]

end Http

/-- Across HTTP a record keeps its fields exactly when every one of them survives the
headers of the endpoint and of the record, in whatever letter case these are. -/
theorem http_round_trip_iff (lower : String → String) (fixes : FixesFields lower)
    (router : HttpEndpointRouter) (endpoint : HttpEndpoint) (record : OutboxMessageRecord J)
    (valid : record.metadata.validate = .ok ())
    (routed : router.endpoints record.eventType = some endpoint) :
    HttpRoundTrips lower router record ↔ FieldsSurvive lower endpoint record :=
  ⟨fieldsSurvive fixes routed, httpRoundTrips fixes valid routed⟩

def billing : HttpEndpoint where
  method := "POST"
  url := "https://billing/events"
  headers := .ofItems [("Authorization", "secret"), ("x-pactix-message-id", "static")]

def billingRouter : HttpEndpointRouter := HttpEndpointRouter.register {} "order" billing

theorem toLower_fixes : FixesFields String.toLower := by
  decide +kernel

theorem billing_routed : billingRouter.endpoints "order" = some billing := by
  simp [billingRouter, HttpEndpointRouter.register]

theorem http_round_trip_iff_sample :
    let record := { relayed with headers := .ofItems [("X-Trace", "t1")] };
    HttpRoundTrips String.toLower billingRouter record := by
  have survive : FieldsSurvive String.toLower billing
      { relayed with headers := .ofItems [("X-Trace", "t1")] } := by
    decide +kernel
  exact (http_round_trip_iff _ toLower_fixes _ billing _ (by decide) billing_routed).mpr survive

/-- A header of the record supplies the ordering key that the record does not have, and a
case variant of a header that the endpoint sets replaces the message id. -/
theorem headers_reach_fields :
    ¬HttpRoundTrips String.toLower billingRouter
        { relayed with headers := .ofItems [("X-Pactix-Ordering-Key", "customer")] } ∧
      ¬HttpRoundTrips String.toLower billingRouter
        { relayed with headers := .ofItems [("X-Pactix-Message-Id", "m0")] } := by
  constructor
  · intro roundTrips
    have survive := fieldsSurvive toLower_fixes billing_routed roundTrips
    revert survive
    decide +kernel
  · intro roundTrips
    have survive := fieldsSurvive toLower_fixes billing_routed roundTrips
    revert survive
    decide +kernel

end Pactix.Guarantees
