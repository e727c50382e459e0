import Pactix.Guarantees.Dialects
import Pactix.Guarantees.Receipts
import Pactix.Guarantees.Transport
import Pactix.Transport.Consumer

/-!
# Kafka receipt across crashes

Everything below the committed position is in the inbox, once, and stays there whatever the
workers do; redeliveries change nothing.
-/

namespace Pactix.Transport.KafkaInboxConsumer

open Foundation
open Worker (Deployment)

variable {Worker J : Type}

/-- The record has a row of its source and message id. -/
def Stored (consumer : KafkaInboxConsumer J) (table : Inbox.Table J) (record : ConsumerRecord) :
    Prop :=
  ∃ envelope, consumer.normalize record = .ok envelope ∧
    (consumer.source, envelope.metadata.messageId) ∈ table.map (·.message)

/-- MySQL stores the source and the message ids of the log uncut. -/
def Uncut (consumer : KafkaInboxConsumer J) (dialect : Dialect) : Prop :=
  dialect = .mysql → Inbox.Short consumer.source ∧
    ∀ record ∈ consumer.log.records, ∀ envelope, consumer.normalize record = .ok envelope →
      Inbox.Short envelope.metadata.messageId

/-- Nothing is lost, and nothing is stored twice. -/
structure ReceivedOnce [DecidableEq Worker] (consumer : KafkaInboxConsumer J)
    (deployment : Deployment Worker) (mode : Worker → Inbox.Mode) (state : ConsumerState Worker J) :
    Prop where
  /-- Every record below the committed position is in the inbox. -/
  committed : ∀ record ∈ consumer.log.records, record.offset < state.committed →
    consumer.Stored state.inbox.table record
  /-- Each source and message id has one row. -/
  one_row : ∀ row ∈ state.inbox.table,
    (state.inbox.table.map (·.message)).count row.message = 1
  /-- A call of the consumer changes no column of any row. -/
  rows_kept : ∀ id time after, step consumer deployment mode state (.save id time) = some after →
    ∀ row ∈ state.inbox.table, row ∈ after.inbox.table
  /-- A call for a record that is stored changes nothing. -/
  redelivery : ∀ id time after, step consumer deployment mode state (.save id time) = some after →
    ∀ record, consumer.log.fetch state.position = some record →
      consumer.Stored state.inbox.table record → after.inbox.table = state.inbox.table

/-- The consumer has stored everything below its position. -/
structure Ahead (consumer : KafkaInboxConsumer J) (state : ConsumerState Worker J) : Prop where
  below : ∀ record ∈ consumer.log.records, record.offset < state.position →
    consumer.Stored state.inbox.table record
  committed_le : state.committed ≤ state.position
  saved : ∀ record ∈ state.saved, consumer.log.fetch state.position = some record ∧
    consumer.Stored state.inbox.table record

/-! ## The inbox -/

section Inbox

variable [DecidableEq Worker] {consumer : KafkaInboxConsumer J} {deployment : Deployment Worker}
variable {mode : Worker → Inbox.Mode} {state : ConsumerState Worker J} {clock : Int}

/-- What the inbox goes through is a run of the inbox. -/
theorem inbox_path
    (path : (machine consumer deployment mode).Path Machine.Free (.initial clock) state) :
    (Pactix.Worker.machine (Inbox.service deployment mode)).Path Machine.Free (.initial clock)
      state.inbox := by
  induction path with
  | refl => exact .refl
  | tail _ last ih =>
      obtain ⟨label, _, stepped⟩ := last
      cases stepped_of_step stepped with
      | inbox inboxLabel inbox inboxStepped => exact ih.tail ⟨inboxLabel, trivial, inboxStepped⟩
      | save record envelope arrival table outcome idle fetched normalized source carried
          received =>
          refine ih.tail ⟨.receive arrival, trivial, ?_⟩
          have received : (Inbox.service deployment mode).store.receive arrival _ = _ := received
          simp only [Pactix.Worker.machine, Pactix.Worker.step, received]
      | commit | restart => exact ih

/-- A step of the inbox keeps the messages of its rows, and may add a row of a new one. -/
theorem messages_step {inbox after : Guarantees.InboxState Worker J}
    (path : (Pactix.Worker.machine (Inbox.service deployment mode)).Path Machine.Free
      (.initial clock) inbox)
    {label : Pactix.Worker.Label Worker (Inbox.InboxMessageRecord J) (Inbox.Query J)
      (Inbox.Arrival J) Inbox.Query.Reply}
    (stepped : Pactix.Worker.step (Inbox.service deployment mode) inbox label = some after) :
    after.table.map (·.message) = inbox.table.map (·.message) ∨
      ∃ row, after.table = inbox.table ++ [row] ∧ row.message ∉ inbox.table.map (·.message) := by
  by_cases receives : ∃ arrival, label = .receive arrival
  · obtain ⟨arrival, rfl⟩ := receives
    cases Pactix.Worker.stepped_of_step stepped with
    | receive _ table outcome received =>
        rcases Inbox.receive_adds received with ⟨rfl, _⟩ | ⟨row, rfl, unknown, _⟩
        · exact .inl rfl
        · exact .inr ⟨row, rfl, unknown⟩
    | reject => exact .inl rfl
  · obtain ⟨queue, simulates, _⟩ := Pactix.Worker.evidenced_of_path path
    have cards := simulates.cards_kept stepped fun arrival same => receives ⟨arrival, same⟩
    have contents := congrArg (List.map fun card => (card.body.source, card.body.messageId)) cards
    rw [List.map_map, List.map_map] at contents
    exact .inl contents

/-- In an inbox no two rows have the same source and message id. -/
theorem messages_nodup {inbox : Guarantees.InboxState Worker J}
    (path : (Pactix.Worker.machine (Inbox.service deployment mode)).Path Machine.Free
      (.initial clock) inbox) : (inbox.table.map (·.message)).Nodup := by
  induction path with
  | refl => exact List.nodup_nil
  | tail earlier last ih =>
      obtain ⟨label, _, stepped⟩ := last
      rcases messages_step earlier stepped with same | ⟨row, added, unknown⟩
      · rw [same]
        exact ih
      · rw [added, List.map_append]
        exact ih.append (List.nodup_singleton _) (List.disjoint_singleton.mpr unknown)

end Inbox

/-! ## The consumer -/

section Consumer

variable [DecidableEq Worker] {consumer : KafkaInboxConsumer J} {deployment : Deployment Worker}
variable {mode : Worker → Inbox.Mode} {state after : ConsumerState Worker J} {clock : Int}

theorem Stored.mono {table later : Inbox.Table J} {record : ConsumerRecord}
    (stored : consumer.Stored table record)
    (kept : ∀ message ∈ table.map (·.message), message ∈ later.map (·.message)) :
    consumer.Stored later record := by
  obtain ⟨envelope, normalized, present⟩ := stored
  exact ⟨envelope, normalized, kept _ present⟩

omit [DecidableEq Worker] in
/-- A save stores the record, and leaves every row as it was. -/
theorem saved_rows {record : ConsumerRecord} {envelope : MessageEnvelope J}
    {arrival : Inbox.Arrival J} {table later : Inbox.Table J} {outcome : Inbox.ReceiveOutcome J}
    (uncut : consumer.Uncut deployment.dialect) (listed : record ∈ consumer.log.records)
    (normalized : consumer.normalize record = .ok envelope)
    (source : arrival.source = consumer.source) (carried : arrival.envelope = envelope)
    (received : (Inbox.store deployment).receive arrival table = .ok (later, outcome)) :
    consumer.Stored later record ∧ (∀ row ∈ table, row ∈ later) ∧
      (consumer.Stored table record → later = table) := by
  have message : arrival.message = (consumer.source, envelope.metadata.messageId) := by
    rw [Inbox.Arrival.message, source, carried]
  have fits : arrival.Uncut deployment.dialect := by
    intro mysql
    obtain ⟨shortSource, shortIds⟩ := uncut mysql
    rw [source, carried]
    exact ⟨shortSource, shortIds record listed envelope normalized⟩
  rcases Inbox.receive_adds received with ⟨rfl, known⟩ | ⟨row, rfl, unknown, own⟩
  · exact ⟨⟨envelope, normalized, message ▸ known⟩, fun _ membership => membership, fun _ => rfl⟩
  · refine ⟨⟨envelope, normalized, ?_⟩, fun _ => List.mem_append_left _, fun stored => ?_⟩
    · rw [List.map_append, ← message, ← own fits]
      exact List.mem_append_right _ (List.mem_singleton.mpr rfl)
    · obtain ⟨other, otherNormalized, present⟩ := stored
      obtain rfl := Except.ok.inj (normalized.symm.trans otherNormalized)
      rw [own fits, message] at unknown
      exact absurd present unknown

/-- Every step keeps the consumer ahead. -/
theorem Ahead.step (ahead : Ahead consumer state) (uncut : consumer.Uncut deployment.dialect)
    (path : (machine consumer deployment mode).Path Machine.Free (.initial clock) state)
    {label : ConsumerLabel Worker J}
    (stepped : step consumer deployment mode state label = some after) : Ahead consumer after := by
  cases stepped_of_step stepped with
  | inbox inboxLabel inbox inboxStepped =>
      have kept : ∀ message ∈ state.inbox.table.map (·.message),
          message ∈ inbox.table.map (·.message) := by
        intro message present
        rcases messages_step (inbox_path path) inboxStepped with same | ⟨row, added, _⟩
        · rw [same]
          exact present
        · rw [added, List.map_append]
          exact List.mem_append_left _ present
      exact ⟨fun record listed early => (ahead.below record listed early).mono kept,
        ahead.committed_le, fun record saved =>
          ⟨(ahead.saved record saved).1, (ahead.saved record saved).2.mono kept⟩⟩
  | save record envelope arrival table outcome idle fetched normalized source carried received =>
      have listed := List.mem_of_find?_eq_some fetched
      obtain ⟨stored, rows, _⟩ := saved_rows uncut listed normalized source carried received
      have kept : ∀ message ∈ state.inbox.table.map (·.message),
          message ∈ table.map (·.message) := by
        intro message present
        obtain ⟨row, membership, rfl⟩ := List.mem_map.mp present
        exact List.mem_map_of_mem (rows row membership)
      refine ⟨fun other otherListed early => (ahead.below other otherListed early).mono kept,
        ahead.committed_le, ?_⟩
      rintro other ⟨⟩
      exact ⟨fetched, stored⟩
  | commit record saved =>
      obtain ⟨fetched, stored⟩ := ahead.saved record saved
      refine ⟨fun other listed early => ?_, le_refl _, by simp⟩
      rcases PartitionLog.fetch_eq_some fetched listed early with rfl | below
      · exact stored
      · exact ahead.below other listed below
  | restart =>
      exact ⟨fun record listed early =>
        ahead.below record listed (lt_of_lt_of_le early ahead.committed_le), le_refl _, by
          simp [ConsumerState.restart]⟩

theorem ahead_of_path (uncut : consumer.Uncut deployment.dialect)
    (path : (machine consumer deployment mode).Path Machine.Free (.initial clock) state) :
    Ahead consumer state := by
  induction path with
  | refl =>
      refine ⟨fun record listed early => ?_, le_refl _, by simp [ConsumerState.initial]⟩
      have := (consumer.log.placed record listed).2.2
      simp only [ConsumerState.initial] at early
      omega
  | tail earlier last ih =>
      obtain ⟨label, _, stepped⟩ := last
      exact ih.step uncut earlier stepped

/-- A save keeps every row, and changes nothing when the record is stored already. -/
theorem save_keeps (uncut : consumer.Uncut deployment.dialect) {id : UUID} {time : Int}
    (stepped : step consumer deployment mode state (.save id time) = some after) :
    (∀ row ∈ state.inbox.table, row ∈ after.inbox.table) ∧
      ∀ record, consumer.log.fetch state.position = some record →
        consumer.Stored state.inbox.table record → after.inbox.table = state.inbox.table := by
  generalize labelled : ConsumerLabel.save id time = label at stepped
  cases stepped_of_step stepped with
  | inbox | commit => simp at labelled
  | restart => exact ⟨fun _ membership => membership, fun _ _ _ => rfl⟩
  | save record envelope arrival table outcome idle fetched normalized source carried received =>
      have listed := List.mem_of_find?_eq_some fetched
      obtain ⟨_, rows, unchanged⟩ := saved_rows uncut listed normalized source carried received
      refine ⟨rows, fun other otherFetched stored => unchanged ?_⟩
      obtain rfl := Option.some.inj (fetched.symm.trans otherFetched)
      exact stored

theorem receivedOnce_of_path (uncut : consumer.Uncut deployment.dialect)
    (path : (machine consumer deployment mode).Path Machine.Free (.initial clock) state) :
    ReceivedOnce consumer deployment mode state where
  committed record listed early :=
    (ahead_of_path uncut path).below record listed
      (lt_of_lt_of_le early (ahead_of_path uncut path).committed_le)
  one_row _ membership :=
    List.count_eq_one_of_mem (messages_nodup (inbox_path path)) (List.mem_map_of_mem membership)
  rows_kept _ _ _ stepped := (save_keeps uncut stepped).1
  redelivery _ _ _ stepped := (save_keeps uncut stepped).2

end Consumer

end Pactix.Transport.KafkaInboxConsumer

namespace Pactix.Guarantees

open Foundation Transport
open Worker (Deployment)

/-- A consumer loses nothing and stores nothing twice in any run, unless MySQL has to cut its
source or a message id of its log; and fallback ids are different for different records. -/
theorem kafka_received_once {Worker J : Type} [DecidableEq Worker]
    (consumer : KafkaInboxConsumer J) (deployment : Deployment Worker) (mode : Worker → Inbox.Mode)
    (clock : Int) (uncut : consumer.Uncut deployment.dialect) :
    (∀ state, (consumer.machine deployment mode).Path Machine.Free (.initial clock) state →
      consumer.ReceivedOnce deployment mode state) ∧
    ∀ left right : KafkaInboundMessage J,
      left.headers.get "message_id" = none → right.headers.get "message_id" = none →
      left.messageId = right.messageId →
      left.topic = right.topic ∧ left.partition = right.partition ∧ left.offset = right.offset := by
  refine ⟨fun state => KafkaInboxConsumer.receivedOnce_of_path uncut, fun left right
    leftMissing rightMissing same => fallbackMessageId_injective ?_⟩
  simpa only [KafkaInboundMessage.messageId, leftMissing, rightMissing] using same

/-- An event of a small log, with further headers. -/
def event (offset : Int) (headers : List (String × String)) : ConsumerRecord where
  topic := "orders"
  partition := 0
  offset
  key := none
  value := some "null".toUTF8
  headers := (("event_type", "order") :: headers).map fun item => (item.1, some item.2.toUTF8)

/-- A consumer of two events, the second one without a message id. -/
def ordersConsumer (messageId : String) : KafkaInboxConsumer Unit where
  source := "kafka:orders"
  config := twoAttempts
  codec := nullCodec
  log := {
    topic := "orders"
    partition := 0
    records := [event 0 [("message_id", messageId)], event 5 []]
    placed := by simp [event]
    increasing := by simp [event] }

/-- The first record is saved, the consumer dies before it commits, a worker takes the row,
and the record is delivered again. -/
def redeliveringRun : List (KafkaInboxConsumer.ConsumerLabel Bool Unit) :=
  [.save 1 0, .inbox (.spawn false), .inbox (handling false 1), .inbox (handling false 2), .crash,
    .save 2 (3 * second), .commit, .save 3 (4 * second), .inbox (handling false 5), .commit]

theorem kafka_received_once_sample :
    let consumer := ordersConsumer "m1"
    let machine := consumer.machine deployment fun (_ : Bool) => .fifoPerOrderingKey
    ∃ state, machine.replay Machine.Free (.initial 0) redeliveringRun = some state ∧
      state.committed = 6 ∧
      state.inbox.table.map (·.messageId) = ["m1", "orders:0:5"] ∧
      state.inbox.table.map (·.status) = [.processing, .pending] ∧
      consumer.ReceivedOnce deployment (fun _ => .fifoPerOrderingKey) state := by
  intro consumer machine
  have path := machine.path_replay Machine.Free (.initial 0) redeliveringRun (by decide +kernel)
  refine ⟨_, (Option.some_get _).symm, by decide +kernel, by decide +kernel, by decide +kernel,
    (kafka_received_once consumer deployment _ 0 ?_).1 _ path⟩
  intro mysql
  simp [deployment] at mysql

theorem normalize_event (messageId : String) (offset : Int) (headers : List (String × String)) :
    (ordersConsumer messageId).normalize (event offset headers) =
      (KafkaInboundMessage.mk "orders" 0 offset none ()
        (.ofItems (("event_type", "order") :: headers))).toEnvelope := by
  have decoded : (event offset headers).headers.mapM KafkaInboundMessage.decodeHeader = .ok _ :=
    mapM_decodeHeader (("event_type", "order") :: headers)
  have loaded : (ordersConsumer messageId).codec.loads "null".toUTF8 = .ok () :=
    nullCodec.loads_dumps ()
  have read : KafkaInboundMessage.fromRecord (ordersConsumer messageId).codec
      (event offset headers) =
      .ok ⟨"orders", 0, offset, none, (), .ofItems (("event_type", "order") :: headers)⟩ := by
    unfold KafkaInboundMessage.fromRecord
    rw [decoded]
    simp only [event]
    rw [loaded]
    rfl
  rw [KafkaInboxConsumer.normalize, read]
  rfl

def longHeaders : Headers := .ofItems [("event_type", "order"), ("message_id", longId)]

def longEnvelope : MessageEnvelope Unit where
  metadata := { messageId := longId, eventType := "order", headers := longHeaders }
  payload := ()
  valid := by
    have text : isBlank "order" = false := by decide
    simp [MessageMetadata.validate, text, longId_not_blank]

theorem normalize_long : (ordersConsumer longId).normalize (event 0 [("message_id", longId)]) =
    .ok longEnvelope := by
  have items : longHeaders.items = [("event_type", "order"), ("message_id", longId)] := by
    simp [longHeaders, Headers.ofItems, Dict.ofItems, Dict.update, Dict.set]
  have eventType : longHeaders.get "event_type" = some "order" := by
    simp [Headers.get, Dict.get, items]
  have messageId : longHeaders.get "message_id" = some longId := by
    simp [Headers.get, Dict.get, items]
  have orderingKey : longHeaders.get "ordering_key" = none := by
    simp [Headers.get, Dict.get, items]
  have correlationId : longHeaders.get "correlation_id" = none := by
    simp [Headers.get, Dict.get, items]
  have notEmpty : longId ≠ "" := by
    intro empty
    have blank := longId_not_blank
    rw [empty] at blank
    exact absurd blank (by decide)
  rw [normalize_event]
  change (KafkaInboundMessage.mk "orders" 0 0 none () longHeaders).toEnvelope = _
  simp only [KafkaInboundMessage.toEnvelope, KafkaInboundMessage.messageId, eventType, messageId,
    orderingKey, correlationId, notEmpty, if_false]
  exact MessageEnvelope.make_of_valid longEnvelope.valid ()

def mysqlDeployment : Deployment Bool := { deployment with dialect := .mysql }

def longArrival : Inbox.Arrival Unit := ⟨1, 0, "kafka:orders", longEnvelope, twoAttempts⟩

/-- The row that MySQL stores of the record. -/
def cutRow : Inbox.InboxMessageRecord Unit :=
  Inbox.truncated (Inbox.recordValues longArrival.record .mysql)

theorem long_received : (Inbox.store mysqlDeployment).receive longArrival [] =
    .ok ([cutRow], ⟨longArrival.record, true⟩) := by
  have notBlank : isBlank longArrival.source = false := by decide
  have added : Inbox.insertIgnore (Inbox.recordValues longArrival.record .mysql) [] =
      ([cutRow], 1) := by
    simp [Inbox.insertIgnore_conflict, cutRow]
  have received : Inbox.receive .mysql longArrival [] = _ :=
    Inbox.receive_mysql_inserted notBlank (by rw [added])
  rw [added] at received
  exact Inbox.saveReceived_of_receive received

/-- On MySQL the record is stored under a cut message id, and its offset is committed. -/
theorem long_id_lost :
    ∃ state, ((ordersConsumer longId).machine mysqlDeployment
        fun (_ : Bool) => .fifoPerOrderingKey).Path Machine.Free (.initial 0) state ∧
      ¬(ordersConsumer longId).ReceivedOnce mysqlDeployment (fun _ => .fifoPerOrderingKey)
        state := by
  let start : KafkaInboxConsumer.ConsumerState Bool Unit := .initial 0
  let saved : KafkaInboxConsumer.ConsumerState Bool Unit := { start with
    inbox := { start.inbox with
      table := [cutRow]
      receipts := [(longArrival, ⟨longArrival.record, true⟩)] }
    saved := some (event 0 [("message_id", longId)]) }
  have isSaved : (ordersConsumer longId).save mysqlDeployment 1 0 (.initial 0) = some saved := by
    have fetched : (ordersConsumer longId).log.fetch 0 =
        some (event 0 [("message_id", longId)]) := by
      simp [ordersConsumer, PartitionLog.fetch, event]
    exact KafkaInboxConsumer.save_of_received rfl fetched normalize_long long_received
  refine ⟨{ saved with committed := 1, position := 1, saved := none },
    (Machine.path_single (.save 1 0) trivial isSaved).tail ⟨.commit, trivial, rfl⟩,
    fun once => ?_⟩
  obtain ⟨envelope, normalized, stored⟩ := once.committed (event 0 [("message_id", longId)])
    (by simp [ordersConsumer]) (by simp [event])
  obtain rfl := Except.ok.inj (normalize_long.symm.trans normalized)
  have cut : longId = cutRow.messageId := congrArg Prod.snd (List.mem_singleton.mp stored)
  have short : Inbox.Short cutRow.messageId := (Inbox.fits_truncated _).messageId
  exact longId_not_short (cut ▸ short)

end Pactix.Guarantees
