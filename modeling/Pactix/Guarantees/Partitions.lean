import Pactix.Guarantees.Sequences
import Pactix.Relay.Partitions

/-!
# Sequences over Kafka

`KafkaOutboxPublisher` keys messages by `message_key`.  The rows of an ordering key are handled
in their order as far as they have one message key, and so one partition.
-/

namespace Pactix.Guarantees

open Foundation Transport
open Inbox (InboxMessageRecord)
open Outbox (OutboxMessageRecord)
open Worker (Deployment Foremost InTurn)

variable {M W V J : Type} [DecidableEq M] [DecidableEq W] [DecidableEq V]

/-- The two rows have a message key, and the same one. -/
def SameMessageKey (older sent : Outbox.Content J) : Prop :=
  sent.messageKey ≠ none ∧ older.messageKey = sent.messageKey

section Log

variable {partition : String → ByteArray → Int} {codec : JsonCodec J} {router : KafkaTopicRouter}
variable {older sent : OutboxMessageRecord J} {earlier record : ConsumerRecord}

/-- Records of one event type and one message key are in one partition. -/
theorem same_place (olderCarried : Carries codec router older earlier)
    (carried : Carries codec router sent record) (eventType : older.eventType = sent.eventType)
    (same : SameMessageKey older.content sent.content) (olderKeyed : Relay.Keyed partition earlier)
    (keyed : Relay.Keyed partition record) : earlier.place = record.place := by
  obtain ⟨olderMessage, _, _, olderBuilt, rfl⟩ := olderCarried
  obtain ⟨message, _, _, built, rfl⟩ := carried
  obtain ⟨hasKey, sameKey⟩ := same
  have sameKey : older.messageKey = sent.messageKey := sameKey
  obtain ⟨key, keyIs⟩ := Option.ne_none_iff_exists'.mp hasKey
  have keyIs : sent.messageKey = some key := keyIs
  cases routed : router.topics sent.eventType with
  | none =>
      simp only [buildMessage, KafkaTopicRouter.resolve, routed] at built
      cases built
  | some topic =>
      simp only [buildMessage, KafkaTopicRouter.resolve, eventType, routed, sameKey, keyIs]
        at olderBuilt built
      obtain rfl := Except.ok.inj olderBuilt
      obtain rfl := Except.ok.inj built
      rw [ConsumerRecord.place, ConsumerRecord.place, olderKeyed key.toUTF8 rfl,
        keyed key.toUTF8 rfl]
      rfl

/-- The record carries a row before which everything is finished, and comes after the records of
what is published before the row. -/
def Logged (codec : JsonCodec J) (router : KafkaTopicRouter) (sending : Deployment W)
    (outbox : Outbox.Table J) (log : List ConsumerRecord) (record : ConsumerRecord) : Prop :=
  ∃ sent ∈ outbox, Carries codec router sent record ∧
    Foremost (Outbox.service sending) outbox sent ∧
    ∀ older ∈ outbox, older.Precedes sent → SameMessageKey older.content sent.content →
      older.status = .published → ∃ earlier ∈ log, Carries codec router older earlier ∧
        earlier.place = record.place ∧ earlier.offset < record.offset

end Log

section Runs

variable {partition : String → ByteArray → Int} {router : KafkaTopicRouter} {group : KafkaGroup M J}
variable {sending : Deployment W} {receiving : Deployment V} {mode : V → Inbox.Mode}
variable {clock inboxClock : Int}
variable {state : Relay.State W J KafkaProducedMessage (KafkaGroup.State M V J) Unit}

/-- What happens to the outbox leaves a record of the log as it is. -/
theorem Logged.outbox {after : Relay.State W J KafkaProducedMessage (KafkaGroup.State M V J) Unit}
    {label : Relay.Label W J (Int × Int) (KafkaGroup.Label M V J) Unit}
    {queue : Worker.QueueState W (Outbox.Content J)} {log : List ConsumerRecord}
    {record : ConsumerRecord}
    (simulates : Worker.Simulates (Outbox.service sending) state.outbox queue)
    (orderly : Queue.Orderly queue)
    (stepped : Relay.Stepped (Relay.kafkaCarrier router group receiving mode) sending state label
      after)
    (inTurn : Relay.OutboxInTurn sending state label)
    (logged : Logged group.codec router sending state.outbox.table log record) :
    Logged group.codec router sending after.outbox.table log record := by
  obtain ⟨sent, stored, ⟨message, part, offset, built, rfl⟩, foremost, published⟩ := logged
  obtain ⟨later, present, card, stays, frozen⟩ :=
    stepped.foremost_row simulates orderly inTurn stored foremost
  have content : later.content = sent.content := congrArg Queue.Card.body card
  refine ⟨later, present, ⟨message, part, offset, ?_, rfl⟩, stays, ?_⟩
  · exact (buildMessage_congr group.codec router content).trans built
  · intro older olderPresent precedes same isPublished
    obtain ⟨olderStored, precedes⟩ := frozen older olderPresent precedes
    exact published older olderStored precedes (content ▸ same) isPublished

omit [DecidableEq M] [DecidableEq W] [DecidableEq V] in
theorem noStandIn_before {before after : Outbox.Table J}
    (kept : ∀ row ∈ before, ∃ later ∈ after, later.content = row.content)
    (noStandIn : ∀ sent ∈ after, NoKafkaStandIn sent) : ∀ sent ∈ before, NoKafkaStandIn sent := by
  intro sent stored
  obtain ⟨later, present, same⟩ := kept sent stored
  simp only [OutboxMessageRecord.content, Outbox.Content.mk.injEq] at same
  obtain ⟨_, _, _, _, orderingKey, correlationId, _, headers, _⟩ := same
  have absent := noStandIn later present
  exact ⟨by rw [← orderingKey, ← headers]; exact absent.orderingKey,
    by rw [← correlationId, ← headers]; exact absent.correlationId⟩

/-- In every run in turn the log has the records of an ordering key in their order. -/
theorem logged_of_path
    (path : (Relay.machine (Relay.kafkaCarrier router group receiving mode) sending).Path
      (Relay.KafkaInTurn partition group sending receiving mode inboxClock)
      (.initial clock (.initial inboxClock)) state) :
    ∀ record ∈ state.delivery.receiver.log,
      Logged group.codec router sending state.outbox.table state.delivery.receiver.log record := by
  induction path with
  | refl =>
      intro record listed
      cases listed
  | @tail before next earlier last ih =>
      obtain ⟨label, inTurn, stepped⟩ := last
      have stepped := Relay.stepped_of_step stepped
      have within := Machine.path_mono (fun _ _ permitted => permitted.2.1) earlier
      have outboxInTurn := Machine.path_mono (fun _ _ permitted => permitted.1) earlier
      obtain ⟨queue, simulates, orderly, _⟩ :=
        Worker.ordered_of_path (fun _ => rfl) (Relay.outbox_inTurn outboxInTurn)
      intro record listed
      apply Logged.outbox simulates orderly stepped inTurn.1
      rcases stepped.logged inTurn with
        same | ⟨dispatch, dispatched, part, offset, appends, keyed, grown⟩
      · rw [same] at listed ⊢
        exact ih record listed
      rw [grown] at listed ⊢
      rcases List.mem_append.mp listed with before | new
      · obtain ⟨sent, stored, carries, foremost, published⟩ := ih record before
        refine ⟨sent, stored, carries, foremost, fun older olderStored precedes same done => ?_⟩
        obtain ⟨earlier, earlierListed, rest⟩ := published older olderStored precedes same done
        exact ⟨earlier, List.mem_append_left _ earlierListed, rest⟩
      · obtain rfl := List.mem_singleton.mp new
        obtain ⟨sent, stored, built, foremost⟩ :=
          Relay.sentInTurn_of_path outboxInTurn dispatch dispatched
        have carries : Carries group.codec router sent
          (Relay.delivered dispatch.message part offset) := ⟨_, part, offset, built, rfl⟩
        refine ⟨sent, stored, carries, foremost, fun older olderStored precedes same done => ?_⟩
        -- What is published before the row has been produced before its record.
        obtain ⟨first, firstListed, firstCarries⟩ := kafka_published within older olderStored done
        have place := same_place firstCarries carries precedes.eventType same
          (Relay.keyed_of_path earlier first firstListed) keyed
        exact ⟨first, List.mem_append_left _ firstListed, firstCarries, place,
          appends.2 first firstListed place⟩

/-- Along every run in turn the rows of the group are in line. -/
theorem kafka_inLine
    (path : (Relay.machine (Relay.kafkaCarrier router group receiving mode) sending).Path
      (Relay.KafkaInTurn partition group sending receiving mode inboxClock)
      (.initial clock (.initial inboxClock)) state)
    (noStandIn : ∀ sent ∈ state.outbox.table, NoKafkaStandIn sent)
    (short : AllShort receiving group.source state.outbox.table) :
    ∀ row ∈ state.delivery.receiver.inbox.table, row.source = group.source →
      InLine sending group.source SameMessageKey state.outbox.table
        state.delivery.receiver.inbox.table row := by
  induction path with
  | refl =>
      intro row stored
      cases stored
  | @tail before next earlier last ih =>
      obtain ⟨label, inTurn, stepped⟩ := last
      have stepped := Relay.stepped_of_step stepped
      have within := Machine.path_mono (fun _ _ permitted => permitted.2.1) earlier
      have outboxInTurn := Machine.path_mono (fun _ _ permitted => permitted.1) earlier
      obtain ⟨queue, simulates, orderly, _⟩ :=
        Worker.ordered_of_path (fun _ => rfl) (Relay.outbox_inTurn outboxInTurn)
      have kept := stepped.contents_kept simulates inTurn.1
      have noStandIn := noStandIn_before kept noStandIn
      have short := allShort_before kept short
      have inLine := ih noStandIn short
      have groupPath := (kafka_fulfilled within).sound
      obtain ⟨inboxQueue, inboxSimulates, _⟩ :=
        Worker.evidenced_of_path (KafkaGroup.inbox_path groupPath)
      intro row present own
      apply InLine.outbox simulates orderly stepped inTurn.1
      cases stepped.fetched inTurn with
      | same same =>
          rw [same] at present ⊢
          exact inLine row present own
      | own inboxLabel elsewhere went _ =>
          rcases inboxSimulates.card_origin went present with
            ⟨origin, stored, card⟩ | ⟨arrival, receipt, rfl, received, added, _⟩
          · exact InLine.inbox inboxSimulates went inLine stored card own
          · have other := row_of_received received added
            rw [other, Inbox.source_row elsewhere.2] at own
            exact absurd own elsewhere.1
      | save name place position record arrival reads fetched normalized source went permitted =>
          rcases inboxSimulates.card_origin went present with
            ⟨origin, stored, card⟩ | ⟨arrival, receipt, labelled, received, added, unknown⟩
          · exact InLine.inbox inboxSimulates went inLine stored card own
          · obtain rfl := Pactix.Worker.Label.receive.inj labelled
            have listed := List.mem_of_find?_eq_some fetched
            have found := List.find?_some fetched
            obtain ⟨recordPlace, _⟩ := of_decide_eq_true found
            obtain ⟨sent, stored, carries, foremost, published⟩ :=
              logged_of_path earlier record listed
            have restores := kafka_restored within noStandIn stored carries normalized
            have mirrors : Mirrors sent row.content := by
              rw [row_of_received received added,
                Inbox.content_row (fits_of_restores short stored source restores)]
              exact ⟨restores.messageId, restores.eventType, restores.messageKey,
                restores.orderingKey, restores.correlationId, restores.payload⟩
            have ahead := KafkaGroup.ahead_of_path groupPath (kafka_uncut within noStandIn short)
            rw [added]
            refine InLine.added stored mirrors foremost ?_
              (permitted.2 _ (by rw [received]; rfl) row present unknown)
            -- The member has gone past what was produced before the record.
            intro older olderStored precedes same isPublished
            obtain ⟨first, firstListed, firstCarries, firstPlace, before⟩ :=
              published older olderStored precedes same isPublished
            exact kafka_received within noStandIn short olderStored firstCarries
              ((ahead.position name place position reads).skipped ahead.ordered fetched firstListed
                (firstPlace.trans recordPlace) before)

end Runs

/-- A message of the customer with a message key. -/
def keyedEnvelope (messageId : String)
    (valid : MessageMetadata.validate
      { messageId, eventType := "order", messageKey := "customer", orderingKey := "customer" } =
        .ok () := by decide) : MessageEnvelope Unit :=
  ⟨_, (), valid⟩

/-- The acknowledgement of the first record is lost, so that its row is produced again while the
second row waits for it.  The group reads three records. -/
def inPartitionRun :
    List (Relay.Label Bool Unit (Int × Int) (KafkaGroup.Label Bool Bool Unit) Unit) :=
  [.outbox (appending 1 0 (keyedEnvelope "m1")), .outbox (appending 2 1 (keyedEnvelope "m2")),
    .outbox (.spawn false), .outbox (publishing false 2), .outbox (publishing false 2),
    .send false, .arrive 0 (3, 0), concluding 4 (.raised "timeout"),
    .outbox (publishing false 5), .outbox (.spawn false), .outbox (publishing false 100),
    .outbox (publishing false 100), .send false, .arrive 1 (3, 1), concluding 102 (.answered 0),
    .outbox (publishing false 103), .outbox (.spawn false), .outbox (publishing false 104),
    .outbox (publishing false 104), .send false, .arrive 2 (3, 2), concluding 106 (.answered 0),
    .outbox (publishing false 107), .own (.assign true ("orders", 3)),
    .own (.save true ("orders", 3) 7 (108 * second)), .own (.commit true),
    .own (.save true ("orders", 3) 8 (109 * second)), .own (.commit true),
    .own (.save true ("orders", 3) 9 (110 * second)), .own (.inbox (.spawn true)),
    .own (.inbox (handling true 111)), .own (.inbox (handling true 111)),
    .own (.inbox (handling true 112)), .own (.inbox (handling true 113)),
    .own (.inbox (handling true 114)), .own (.inbox (.spawn true)),
    .own (.inbox (handling true 115)), .own (.inbox (handling true 115)),
    .own (.inbox (handling true 116))]

end Pactix.Guarantees
