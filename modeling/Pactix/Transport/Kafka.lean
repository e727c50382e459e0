import Pactix.Outbox.Publisher

/-!
# Kafka transport

The producing side encodes an outbox record, the consuming side normalizes a Kafka record
into an envelope.  JSON is a codec; bytes are UTF-8.
-/

namespace Pactix.Transport

open Outbox (OutboxMessageRecord PublishOutcome)

variable {J : Type}

/-- `json.dumps` and `json.loads`, which undoes it. -/
structure JsonCodec (J : Type) where
  dumps : J → String
  loads : ByteArray → Except Error J
  loads_dumps : ∀ payload, loads (dumps payload).toUTF8 = .ok payload

/-- `value.decode('utf-8')`. -/
def decodeUtf8 (value : ByteArray) : Except Error String :=
  match String.fromUTF8? value with
  | some text => .ok text
  | none => .error (.other "UnicodeDecodeError")

@[simp] theorem decodeUtf8_toByteArray (text : String) :
    decodeUtf8 text.toByteArray = .ok text := by
  have valid : String.fromUTF8? text.toByteArray = some text := dif_pos text.isValidUTF8
  simp only [decodeUtf8, valid]

/-! ## Producing -/

/-- A message ready to hand to a Kafka producer. -/
structure KafkaProducedMessage where
  topic : String
  key : Option String
  payload : String
  headers : Headers := .empty

/-- Resolves a Kafka topic from an event type. -/
structure KafkaTopicRouter where
  topics : String → Option String := fun _ => none

def KafkaTopicRouter.register (router : KafkaTopicRouter) (eventType topic : String) :
    KafkaTopicRouter where
  topics := Function.update router.topics eventType (some topic)

def KafkaTopicRouter.resolve (router : KafkaTopicRouter) (eventType : String) :
    Except Error String :=
  match router.topics eventType with
  | some topic => .ok topic
  | none => .error (.routing ("no Kafka topic registered for '" ++ eventType ++ "'"))

/-- The headers that carry metadata, in the order in which they are set. -/
def kafkaMetadata (record : OutboxMessageRecord J) : List (String × Option String) :=
  [("message_id", some record.messageId), ("event_type", some record.eventType),
    ("ordering_key", record.orderingKey), ("correlation_id", record.correlationId)]

/-- `KafkaOutboxPublisher.build_message`. -/
def buildMessage (codec : JsonCodec J) (router : KafkaTopicRouter)
    (record : OutboxMessageRecord J) : Except Error KafkaProducedMessage := do
  let topic ← router.resolve record.eventType
  return {
    topic
    key := record.messageKey
    payload := codec.dumps record.payload
    headers := record.headers.setPresent (kafkaMetadata record) }

/-- What the `aiokafka` producer is given. -/
structure ProducerRecord where
  topic : String
  value : ByteArray
  key : Option ByteArray
  headers : List (String × ByteArray)

/-- `AIOKafkaProducerClient.send`. -/
def send (message : KafkaProducedMessage) : ProducerRecord where
  topic := message.topic
  value := message.payload.toUTF8
  key := message.key.map String.toUTF8
  headers := message.headers.items.map fun (key, value) => (key, value.toUTF8)

/-! ## Consuming -/

/-- An `aiokafka` `ConsumerRecord`. -/
structure ConsumerRecord where
  topic : String
  partition : Int
  offset : Int
  key : Option ByteArray
  value : Option ByteArray
  headers : List (String × Option ByteArray)

/-- A sent record as it is delivered: key, value and headers are unchanged. -/
def ProducerRecord.delivered (sent : ProducerRecord) (topic : String) (partition offset : Int) :
    ConsumerRecord where
  topic
  partition
  offset
  key := sent.key
  value := some sent.value
  headers := sent.headers.map fun (key, value) => (key, some value)

/-- A consumed Kafka message normalized into transport-agnostic fields. -/
structure KafkaInboundMessage (J : Type) where
  topic : String
  partition : Int
  offset : Int
  key : Option String
  payload : J
  headers : Headers := .empty

namespace KafkaInboundMessage

/-- `{topic}:{partition}:{offset}`. -/
def fallbackMessageId (message : KafkaInboundMessage J) : String :=
  message.topic ++ ":" ++ toString message.partition ++ ":" ++ toString message.offset

/-- The `message_id` header, unless it is missing or empty. -/
def messageId (message : KafkaInboundMessage J) : String :=
  match message.headers.get "message_id" with
  | some messageId => if messageId = "" then message.fallbackMessageId else messageId
  | none => message.fallbackMessageId

def toEnvelope (message : KafkaInboundMessage J) : Except Error (MessageEnvelope J) := do
  let some eventType := message.headers.get "event_type"
    | throw (.validation "event_type header is required")
  let metadata := {
    messageId := message.messageId
    eventType
    messageKey := message.key
    orderingKey := message.headers.get "ordering_key"
    correlationId := message.headers.get "correlation_id"
    headers := message.headers }
  MessageEnvelope.make metadata message.payload

/-- The value of a header; a missing one is empty. -/
def decodeHeader : String × Option ByteArray → Except Error (String × String)
  | (key, some value) => do return (key, ← decodeUtf8 value)
  | (key, none) => .ok (key, "")

/-- Build from a `ConsumerRecord`. -/
def fromRecord (codec : JsonCodec J) (record : ConsumerRecord) :
    Except Error (KafkaInboundMessage J) := do
  let some value := record.value
    | throw (.validation "Kafka payload is required")
  let payload ← codec.loads value
  let headers ← record.headers.mapM decodeHeader
  let key ← record.key.mapM decodeUtf8
  return {
    topic := record.topic
    partition := record.partition
    offset := record.offset
    key
    payload
    headers := .ofItems headers }

end KafkaInboundMessage

/-! ## Encoding and decoding -/

theorem mapM_decodeHeader (items : List (String × String)) :
    (items.map fun item => (item.1, some item.2.toUTF8)).mapM KafkaInboundMessage.decodeHeader =
      .ok items := by
  induction items with
  | nil => rfl
  | cons item items ih =>
      rw [List.map_cons, List.mapM_cons, ih]
      simp [KafkaInboundMessage.decodeHeader, bind, Except.bind, pure, Except.pure]

/-- Decoding what was sent gives the parts of the message back. -/
theorem fromRecord_delivered (codec : JsonCodec J) (message : KafkaProducedMessage) (payload : J)
    (dumped : message.payload = codec.dumps payload) (topic : String) (partition offset : Int) :
    KafkaInboundMessage.fromRecord codec ((send message).delivered topic partition offset) =
      .ok { topic, partition, offset, payload
            key := message.key
            headers := message.headers } := by
  have headers : ((send message).delivered topic partition offset).headers.mapM
      KafkaInboundMessage.decodeHeader = .ok message.headers.items := by
    simp only [send, ProducerRecord.delivered, List.map_map]
    exact mapM_decodeHeader message.headers.items
  have key : ((send message).delivered topic partition offset).key.mapM decodeUtf8 =
      .ok message.key := by
    simp only [send, ProducerRecord.delivered]
    cases message.key with
    | none => rfl
    | some key =>
        simp only [Option.map_some, Option.mapM_some, String.toUTF8_eq_toByteArray,
          decodeUtf8_toByteArray]
        rfl
  have loaded : codec.loads (send message).value = .ok payload := by
    rw [send, dumped]
    exact codec.loads_dumps payload
  unfold KafkaInboundMessage.fromRecord
  rw [headers, key]
  simp only [ProducerRecord.delivered, loaded, bind, Except.bind, pure, Except.pure,
    Headers.ofItems_items]

/-! ## Fallback ids -/

theorem nat_repr_injective {left right : Nat} (same : left.repr = right.repr) : left = right := by
  have digits := congrArg String.toList same
  rw [Nat.toList_repr, Nat.toList_repr] at digits
  rw [← Nat.ofDigitChars_ten_toDigits (n := left), digits, Nat.ofDigitChars_ten_toDigits]

/-- The text of a number has no other characters than digits and a minus sign. -/
theorem decimal_chars {number : Int} {character : Char}
    (occurs : character ∈ (toString number).toList) : character.isDigit ∨ character = '-' := by
  rw [Int.toString_eq_repr, Int.repr_eq_if] at occurs
  split at occurs
  · rw [Nat.toList_repr] at occurs
    exact .inl (Nat.isDigit_of_mem_toDigits (by decide) (by decide) occurs)
  · rw [String.toList_append, Nat.toList_repr, List.mem_append] at occurs
    rcases occurs with sign | digit
    · exact .inr (by simpa using sign)
    · exact .inl (Nat.isDigit_of_mem_toDigits (by decide) (by decide) digit)

theorem colon_not_mem_decimal (number : Int) : ':' ∉ (toString number).toList := by
  intro occurs
  rcases decimal_chars occurs with digit | minus
  · exact absurd digit (by decide)
  · exact absurd minus (by decide)

/-- Numbers with the same text are equal. -/
theorem decimal_injective {left right : Int} (same : toString left = toString right) :
    left = right := by
  -- A minus sign is no digit, so both have one or none has.
  have unsigned : ∀ (number : Nat) (text : String), number.repr ≠ "-" ++ text := by
    intro number text equal
    have first : '-' ∈ Nat.toDigits 10 number := by
      rw [← Nat.toList_repr, equal, String.toList_append]
      simp
    exact absurd (Nat.isDigit_of_mem_toDigits (by decide) (by decide) first) (by decide)
  rw [Int.toString_eq_repr, Int.toString_eq_repr, Int.repr_eq_if, Int.repr_eq_if] at same
  split at same <;> split at same
  · have := nat_repr_injective same
    omega
  · exact absurd same (unsigned _ _)
  · exact absurd same.symm (unsigned _ _)
  · have digits := congrArg String.toList same
    rw [String.toList_append, String.toList_append, List.append_cancel_left_eq,
      String.toList_inj] at digits
    have := nat_repr_injective digits
    omega

/-- The part after the last separator is determined. -/
theorem split_last {separator : Char} {left right leftEnd rightEnd : List Char}
    (leftFree : separator ∉ leftEnd) (rightFree : separator ∉ rightEnd)
    (same : left ++ separator :: leftEnd = right ++ separator :: rightEnd) :
    left = right ∧ leftEnd = rightEnd := by
  -- What one side has in excess would contain a separator.
  have noExcess : ∀ {excess rest tail : List Char}, separator ∉ tail →
      separator :: tail = excess ++ separator :: rest → excess = [] := by
    intro excess rest tail free equal
    cases excess with
    | nil => rfl
    | cons first excess =>
        rw [List.cons_append, List.cons.injEq] at equal
        exact absurd (equal.2 ▸ List.mem_append_right _ List.mem_cons_self) free
  rcases List.append_eq_append_iff.mp same with ⟨excess, rfl, equal⟩ | ⟨excess, rfl, equal⟩
  · obtain rfl := noExcess leftFree equal
    simpa using equal
  · obtain rfl := noExcess rightFree equal
    simpa using equal.symm

/-- Different positions have different fallback ids, whatever the topics are called. -/
theorem fallbackMessageId_injective {left right : KafkaInboundMessage J}
    (same : left.fallbackMessageId = right.fallbackMessageId) :
    left.topic = right.topic ∧ left.partition = right.partition ∧ left.offset = right.offset := by
  have characters : (left.topic.toList ++ ':' :: (toString left.partition).toList) ++
        ':' :: (toString left.offset).toList =
      (right.topic.toList ++ ':' :: (toString right.partition).toList) ++
        ':' :: (toString right.offset).toList := by
    have texts := congrArg String.toList same
    simpa [KafkaInboundMessage.fallbackMessageId] using texts
  obtain ⟨front, offset⟩ :=
    split_last (colon_not_mem_decimal _) (colon_not_mem_decimal _) characters
  obtain ⟨topic, partition⟩ :=
    split_last (colon_not_mem_decimal _) (colon_not_mem_decimal _) front
  exact ⟨String.toList_inj.mp topic, decimal_injective (String.toList_inj.mp partition),
    decimal_injective (String.toList_inj.mp offset)⟩

end Pactix.Transport
