import Pactix.Outbox.Service
import Pactix.Transport.Http
import Pactix.Transport.Kafka

/-!
# The publishers of the transports

Routing errors are raised; what the client raises becomes a retry.  `client` is what the
request or producer client does; an error is the text of its exception.
-/

namespace Pactix.Transport

open Outbox (OutboxMessageRecord PublishOutcome)

variable {J : Type}

/-- `text.strip()`. -/
def strip (text : String) : String :=
  String.ofList ((text.toList.dropWhile isSpace).reverse.dropWhile isSpace).reverse

/-- A simplified HTTP response. -/
structure HttpResponse where
  status : Int
  body : Option String := none
  deriving DecidableEq, Repr

/-- `HttpOutboxPublisher.classify_response`. -/
def classifyResponse (response : HttpResponse) : PublishOutcome :=
  if 200 ≤ response.status ∧ response.status < 300 then
    .published
  else
    let body := strip (response.body.getD "")
    let suffix := if body = "" then "" else ": " ++ body
    let message := "HTTP transport returned " ++ toString response.status ++ suffix
    if (response.status = 408 ∨ response.status = 429) ∨ response.status ≥ 500 then
      .retryable message
    else
      .terminal message

/-- `HttpOutboxPublisher.publish`. -/
def httpPublish (router : HttpEndpointRouter)
    (client : HttpOutboundRequest J → Except String HttpResponse)
    (record : OutboxMessageRecord J) : Except Error PublishOutcome := do
  let request ← buildRequest router record
  match client request with
  | .error error => return .retryable error
  | .ok response => return classifyResponse response

/-- `KafkaOutboxPublisher.publish`. -/
def kafkaPublish (codec : JsonCodec J) (router : KafkaTopicRouter)
    (client : KafkaProducedMessage → Except String Unit)
    (record : OutboxMessageRecord J) : Except Error PublishOutcome := do
  let message ← buildMessage codec router record
  match client message with
  | .error error => return .retryable error
  | .ok () => return .published

/-- Exactly the responses of success are taken for one. -/
theorem classifyResponse_published {response : HttpResponse} :
    (classifyResponse response).kind = .published ↔
      200 ≤ response.status ∧ response.status < 300 := by
  unfold classifyResponse
  split
  next success => simp [PublishOutcome.published, success]
  next other =>
    simp only [other, iff_false]
    split <;> simp [PublishOutcome.retryable, PublishOutcome.terminal]

/-! ## What is sent depends on the fixed columns -/

theorem buildRequest_congr (router : HttpEndpointRouter) {left right : OutboxMessageRecord J}
    (same : left.content = right.content) :
    buildRequest router left = buildRequest router right := by
  simp only [OutboxMessageRecord.content, Outbox.Content.mk.injEq] at same
  obtain ⟨_, messageId, eventType, messageKey, orderingKey, correlationId, payload, headers, _⟩ :=
    same
  simp only [buildRequest, httpFields, httpMetadata, messageId, eventType, messageKey,
    orderingKey, correlationId, payload, headers]

theorem buildMessage_congr (codec : JsonCodec J) (router : KafkaTopicRouter)
    {left right : OutboxMessageRecord J} (same : left.content = right.content) :
    buildMessage codec router left = buildMessage codec router right := by
  simp only [OutboxMessageRecord.content, Outbox.Content.mk.injEq] at same
  obtain ⟨_, messageId, eventType, messageKey, orderingKey, correlationId, payload, headers, _⟩ :=
    same
  simp only [buildMessage, kafkaMetadata, messageId, eventType, messageKey, orderingKey,
    correlationId, payload, headers]

end Pactix.Transport
