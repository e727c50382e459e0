import Pactix.Inbox.Receiving
import Pactix.Transport.Kafka
import Pactix.Worker.Runs

/-!
# A consumer of one partition

The consumer saves the record at its position into the inbox, then commits the offset after
it.  It may stop at any point, and starts again from the committed position.  Workers and
other producers use the inbox in between.
-/

namespace Pactix.Transport

open Foundation
open Worker (Deployment)
open Inbox (Arrival InboxMessageRecord)

variable {Worker J : Type}

/-- The records of a partition, in the order of their offsets. -/
structure PartitionLog where
  topic : String
  partition : Int
  records : List ConsumerRecord
  placed : ∀ record ∈ records,
    record.topic = topic ∧ record.partition = partition ∧ 0 ≤ record.offset
  increasing : (records.map ConsumerRecord.offset).Pairwise (· < ·)

/-- The record at a position: the first one whose offset is not below it. -/
def PartitionLog.fetch (log : PartitionLog) (position : Int) : Option ConsumerRecord :=
  log.records.find? fun record => decide (position ≤ record.offset)

/-- A record is at a position when everything before it is below the position. -/
theorem PartitionLog.fetch_eq_some {log : PartitionLog} {position : Int}
    {record other : ConsumerRecord} (fetched : log.fetch position = some record)
    (listed : other ∈ log.records) (notAfter : other.offset < record.offset + 1) :
    other = record ∨ other.offset < position := by
  obtain ⟨_, before, after, split, below⟩ := List.find?_eq_some_iff_append.mp fetched
  have increasing := log.increasing
  rw [split, List.map_append, List.map_cons, List.pairwise_append, List.pairwise_cons]
    at increasing
  rw [split, List.mem_append, List.mem_cons] at listed
  rcases listed with early | rfl | late
  · have := below other early
    simp only [Bool.not_eq_true', decide_eq_false_iff_not] at this
    exact .inr (by omega)
  · exact .inl rfl
  · have := increasing.2.1.1 other.offset (List.mem_map_of_mem late)
    omega

/-- A consumer stores the records of a log under one source, by a store of its own
configuration. -/
structure KafkaInboxConsumer (J : Type) where
  source : String
  config : PactixConfig
  codec : JsonCodec J
  log : PartitionLog

namespace KafkaInboxConsumer

/-- `normalize_message` after `from_record`. -/
def normalize (consumer : KafkaInboxConsumer J) (record : ConsumerRecord) :
    Except Error (MessageEnvelope J) := do
  let message ← KafkaInboundMessage.fromRecord consumer.codec record
  message.toEnvelope

/-- The inbox and the consumer.  `saved` is the record that has been stored and whose offset
is still to be committed. -/
structure ConsumerState (Worker J : Type) where
  inbox : Pactix.Worker.State Worker (InboxMessageRecord J) (Inbox.Query J) Inbox.RunSummary
    (Arrival J) (Inbox.ReceiveOutcome J) Inbox.Query.Reply
  committed : Int := 0
  position : Int := 0
  saved : Option ConsumerRecord := none

/-- An empty inbox, and nothing committed. -/
def ConsumerState.initial (clock : Int) : ConsumerState Worker J where
  inbox := .initial clock

/-- The consumer starts again from the committed position. -/
def ConsumerState.restart (state : ConsumerState Worker J) : ConsumerState Worker J :=
  { state with position := state.committed, saved := none }

/-- What can happen next. -/
inductive ConsumerLabel (Worker J : Type) where
  /-- A step of a worker or of another producer. -/
  | inbox (label : Pactix.Worker.Label Worker (InboxMessageRecord J) (Inbox.Query J) (Arrival J)
      Inbox.Query.Reply)
  /-- The transaction of `save_and_commit`. -/
  | save (id : UUID) (time : Int)
  /-- The offset commit of `save_and_commit`. -/
  | commit
  | crash

section Step

variable [DecidableEq Worker] (consumer : KafkaInboxConsumer J) (deployment : Deployment Worker)
  (mode : Worker → Inbox.Mode)

/-- Save the record at the position.  Whatever raises ends the consumer. -/
def save (id : UUID) (time : Int) (state : ConsumerState Worker J) :
    Option (ConsumerState Worker J) :=
  match state.saved with
  | some _ => none
  | none =>
      match consumer.log.fetch state.position with
      | none => none
      | some record =>
          match consumer.normalize record with
          | .error _ => some state.restart
          | .ok envelope =>
              let arrival : Arrival J := ⟨id, time, consumer.source, envelope, consumer.config⟩
              match (Inbox.store deployment).receive arrival state.inbox.table with
              | .error _ => some state.restart
              | .ok (table, outcome) =>
                  let receipts := (arrival, outcome) :: state.inbox.receipts
                  some { state with
                    inbox := { state.inbox with table, receipts }
                    saved := some record }

/-- The transition function. -/
def step (state : ConsumerState Worker J) :
    ConsumerLabel Worker J → Option (ConsumerState Worker J)
  | .inbox label =>
      (Pactix.Worker.step (Inbox.service deployment mode) state.inbox label).map
        fun inbox => { state with inbox }
  | .save id time => consumer.save deployment id time state
  | .commit =>
      match state.saved with
      | none => none
      | some record =>
          -- `AIOKafkaOffsetCommitter` commits `offset + 1`.
          let next := record.offset + 1
          some { state with committed := next, position := next, saved := none }
  | .crash => some state.restart

/-- The machine of a consumer and the workers of its inbox. -/
def machine : Machine (ConsumerState Worker J) (ConsumerLabel Worker J) :=
  ⟨step consumer deployment mode⟩

end Step

/-- What a step of the consumer can be. -/
inductive Stepped [DecidableEq Worker] (consumer : KafkaInboxConsumer J)
    (deployment : Deployment Worker) (mode : Worker → Inbox.Mode) (state : ConsumerState Worker J) :
    ConsumerLabel Worker J → ConsumerState Worker J → Prop where
  | inbox (label) (inbox)
      (stepped : Pactix.Worker.step (Inbox.service deployment mode) state.inbox label =
        some inbox) :
      Stepped consumer deployment mode state (.inbox label) { state with inbox }
  | save (record : ConsumerRecord) (envelope : MessageEnvelope J) (arrival : Arrival J)
      (table : Inbox.Table J) (outcome : Inbox.ReceiveOutcome J)
      (idle : state.saved = none) (fetched : consumer.log.fetch state.position = some record)
      (normalized : consumer.normalize record = .ok envelope)
      (source : arrival.source = consumer.source) (carried : arrival.envelope = envelope)
      (received : (Inbox.store deployment).receive arrival state.inbox.table =
        .ok (table, outcome)) :
      Stepped consumer deployment mode state (.save arrival.id arrival.time) { state with
        inbox := { state.inbox with
          table
          receipts := (arrival, outcome) :: state.inbox.receipts }
        saved := some record }
  | commit (record : ConsumerRecord) (saved : state.saved = some record) :
      Stepped consumer deployment mode state .commit { state with
        committed := record.offset + 1
        position := record.offset + 1
        saved := none }
  | restart (label : ConsumerLabel Worker J) :
      Stepped consumer deployment mode state label state.restart

theorem save_of_received {consumer : KafkaInboxConsumer J} {deployment : Deployment Worker}
    {id : UUID} {time : Int} {state : ConsumerState Worker J} {record : ConsumerRecord}
    {envelope : MessageEnvelope J} {table : Inbox.Table J} {outcome : Inbox.ReceiveOutcome J}
    (idle : state.saved = none) (fetched : consumer.log.fetch state.position = some record)
    (normalized : consumer.normalize record = .ok envelope)
    (received : (Inbox.store deployment).receive
      ⟨id, time, consumer.source, envelope, consumer.config⟩ state.inbox.table =
        .ok (table, outcome)) :
    consumer.save deployment id time state = some { state with
      inbox := { state.inbox with
        table
        receipts := (⟨id, time, consumer.source, envelope, consumer.config⟩, outcome) ::
          state.inbox.receipts }
      saved := some record } := by
  simp only [save, idle, fetched, normalized, received]

theorem stepped_of_step [DecidableEq Worker] {consumer : KafkaInboxConsumer J}
    {deployment : Deployment Worker} {mode : Worker → Inbox.Mode}
    {state after : ConsumerState Worker J} {label : ConsumerLabel Worker J}
    (stepped : step consumer deployment mode state label = some after) :
    Stepped consumer deployment mode state label after := by
  cases label with
  | inbox label =>
      obtain ⟨inbox, inboxStepped, rfl⟩ := Option.map_eq_some_iff.mp stepped
      exact .inbox label inbox inboxStepped
  | crash =>
      obtain rfl := Option.some.inj stepped
      exact .restart _
  | commit =>
      simp only [step] at stepped
      split at stepped
      · simp at stepped
      next record saved =>
        obtain rfl := Option.some.inj stepped
        exact .commit record saved
  | save id time =>
      simp only [step, save] at stepped
      split at stepped
      · simp at stepped
      next idle =>
        split at stepped
        · simp at stepped
        next record fetched =>
          split at stepped
          · obtain rfl := Option.some.inj stepped
            exact .restart _
          next envelope normalized =>
            split at stepped
            · obtain rfl := Option.some.inj stepped
              exact .restart _
            next table outcome received =>
              obtain rfl := Option.some.inj stepped
              exact .save record envelope _ table outcome idle fetched normalized rfl rfl received

end KafkaInboxConsumer

end Pactix.Transport
