import Pactix.Guarantees.Effects
import Pactix.Inbox.Sequence
import Pactix.Relay.Order

/-!
# Messages in sequence

From end to end the messages of an ordering key are handled in the order in which their
producers have committed them.
-/

namespace Pactix.Guarantees

open Foundation Transport
open Inbox (Deed Effects InboxMessageRecord)
open Outbox (OutboxMessageRecord)
open Worker (Deployment Foremost InTurn)

variable {W V J : Type} [DecidableEq W] [DecidableEq V]

theorem Mirrors.congr {sent other : OutboxMessageRecord J} {content : Inbox.Content J}
    (mirrors : Mirrors sent content) (same : sent.content = other.content) :
    Mirrors other content := by
  simp only [OutboxMessageRecord.content, Outbox.Content.mk.injEq] at same
  obtain ⟨_, messageId, eventType, messageKey, orderingKey, correlationId, payload, _⟩ := same
  constructor
  case messageId => exact mirrors.messageId.trans messageId
  case eventType => exact mirrors.eventType.trans eventType
  case messageKey => exact mirrors.messageKey.trans messageKey
  case orderingKey => exact mirrors.orderingKey.trans orderingKey
  case correlationId => exact mirrors.correlationId.trans correlationId
  case payload => exact mirrors.payload.trans payload

/-- A row has the key of its record. -/
theorem Mirrors.key {sent : OutboxMessageRecord J} {row : InboxMessageRecord J}
    (mirrors : Mirrors sent row.content) : row.entry.card.key = sent.entry.card.key := by
  have eventType : row.eventType = sent.eventType := mirrors.eventType
  have orderingKey : row.orderingKey = sent.orderingKey := mirrors.orderingKey
  simp only [InboxMessageRecord.entry, InboxMessageRecord.key, OutboxMessageRecord.entry,
    OutboxMessageRecord.key, eventType, orderingKey]

/-- The row is that of a record before which everything is finished, and it comes after the rows
of what is published before the record, as far as the transport keeps them in order. -/
def InLine (sending : Deployment W) (source : String)
    (Joined : Outbox.Content J → Outbox.Content J → Prop) (outbox : Outbox.Table J)
    (inbox : Inbox.Table J) (row : InboxMessageRecord J) : Prop :=
  ∃ sent ∈ outbox, Mirrors sent row.content ∧
    Foremost (Outbox.service sending) outbox sent ∧
    ∀ older ∈ outbox, older.Precedes sent → Joined older.content sent.content →
      older.status = .published → ∃ earlier ∈ inbox, earlier.source = source ∧
        Mirrors older earlier.content ∧ earlier.Precedes row

namespace InLine

variable {sending : Deployment W} {receiving : Deployment V} {source : String}
variable {row : InboxMessageRecord J}
variable {Joined : Outbox.Content J → Outbox.Content J → Prop} {table : Inbox.Table J}

/-- What happens to the outbox leaves a row in line. -/
theorem outbox {Message Arrival Own Answer Other : Type}
    {carrier : Relay.Carrier J Message Other Arrival Own Answer}
    {state after : Relay.State W J Message Other Answer}
    {label : Relay.Label W J Arrival Own Answer} {queue : Worker.QueueState W (Outbox.Content J)}
    (simulates : Worker.Simulates (Outbox.service sending) state.outbox queue)
    (orderly : Queue.Orderly queue)
    (stepped : Relay.Stepped carrier sending state label after)
    (inTurn : Relay.OutboxInTurn sending state label)
    (inLine : InLine sending source Joined state.outbox.table table row) :
    InLine sending source Joined after.outbox.table table row := by
  obtain ⟨sent, stored, mirrors, foremost, published⟩ := inLine
  obtain ⟨later, present, card, stays, frozen⟩ :=
    stepped.foremost_row simulates orderly inTurn stored foremost
  have content : later.content = sent.content := congrArg Queue.Card.body card
  refine ⟨later, present, mirrors.congr content.symm, stays, ?_⟩
  intro older olderPresent precedes joined isPublished
  obtain ⟨olderStored, precedes⟩ := frozen older olderPresent precedes
  exact published older olderStored precedes (content ▸ joined) isPublished

omit [DecidableEq W] in
/-- What happens to the inbox leaves its rows in line. -/
theorem inbox {outbox : Outbox.Table J} {inbox next : Inbox.State V J} {mode : V → Inbox.Mode}
    {queue : Worker.QueueState V (Inbox.Content J)} {label : Inbox.Label V J}
    (simulates : Worker.Simulates (Inbox.service receiving mode) inbox queue)
    (stepped : Worker.step (Inbox.service receiving mode) inbox label = some next)
    (inLine : ∀ row ∈ inbox.table, row.source = source →
      InLine sending source Joined outbox inbox.table row)
    {origin : InboxMessageRecord J} (stored : origin ∈ inbox.table)
    (same : origin.entry.card = row.entry.card) (own : row.source = source) :
    InLine sending source Joined outbox next.table row := by
  have content : origin.content = row.content := congrArg Queue.Card.body same
  obtain ⟨sent, sentStored, mirrors, foremost, published⟩ :=
    inLine origin stored ((congrArg Inbox.Content.source content).trans own)
  refine ⟨sent, sentStored, content ▸ mirrors, foremost, ?_⟩
  intro older olderStored precedes joined isPublished
  obtain ⟨earlier, present, ownEarlier, mirrored, before⟩ :=
    published older olderStored precedes joined isPublished
  obtain ⟨stays, staysPresent, card, _⟩ :=
    simulates.rows_kept (Machine.path_single label trivial stepped) present
  have card : stays.entry.card = earlier.entry.card := card
  have content : stays.content = earlier.content := congrArg Queue.Card.body card
  refine ⟨stays, staysPresent, ?_, content ▸ mirrored, ?_⟩
  · exact (congrArg Inbox.Content.source content).trans ownEarlier
  · rw [InboxMessageRecord.Precedes, ← same, card]
    exact before

omit [DecidableEq W] [DecidableEq V] in
/-- A row that is added after those of its key is in line. -/
theorem added {outbox : Outbox.Table J} {sent : OutboxMessageRecord J} {mode : V → Inbox.Mode}
    (stored : sent ∈ outbox) (mirrors : Mirrors sent row.content)
    (foremost : Foremost (Outbox.service sending) outbox sent)
    (published : ∀ older ∈ outbox, older.Precedes sent → Joined older.content sent.content →
      older.status = .published →
        ∃ earlier ∈ table, earlier.source = source ∧ Mirrors older earlier.content)
    (serial : Worker.Serial (Inbox.service receiving mode) table row) :
    InLine sending source Joined outbox (table ++ [row]) row := by
  refine ⟨sent, stored, mirrors, foremost, ?_⟩
  intro older olderStored precedes joined isPublished
  obtain ⟨earlier, present, own, mirrored⟩ :=
    published older olderStored precedes joined isPublished
  have key : earlier.entry.card.key = row.entry.card.key :=
    (mirrored.key.trans precedes.2.1).trans mirrors.key.symm
  have keyed : row.entry.card.key ≠ none := mirrors.key ▸ precedes.1
  exact ⟨earlier, List.mem_append_left _ present, own, mirrored, keyed, key,
    serial keyed earlier present key⟩

omit [DecidableEq W] in
/-- The row of a published record comes before that of a record that it precedes. -/
theorem before {outbox : Outbox.Table J} {inbox : Inbox.Table J}
    (distinct : (outbox.map (·.messageId)).Nodup) {sent older : OutboxMessageRecord J}
    {row : InboxMessageRecord J} (inLine : InLine sending source Joined outbox inbox row)
    (stored : sent ∈ outbox) (same : row.messageId = sent.messageId) (olderStored : older ∈ outbox)
    (precedes : older.Precedes sent) :
    older.entry.phase.terminal = true ∧
      (Joined older.content sent.content → older.status = .published →
        ∃ earlier ∈ inbox, earlier.source = source ∧ Mirrors older earlier.content ∧
          earlier.Precedes row) := by
  obtain ⟨twin, twinStored, mirrors, foremost, published⟩ := inLine
  obtain rfl : twin = sent := List.inj_on_of_nodup_map distinct twinStored stored
    (mirrors.messageId.symm.trans same)
  exact ⟨foremost older olderStored precedes, published older olderStored precedes⟩

end InLine

/-- A finished record is published or has failed. -/
theorem published_or_failed {sent : OutboxMessageRecord J}
    (terminal : sent.entry.phase.terminal = true) :
    sent.status = .published ∨ sent.status = .failed := by
  unfold OutboxMessageRecord.entry at terminal
  cases status : sent.status with
  | pending | processing =>
      rw [status] at terminal
      cases terminal
  | published => exact .inl rfl
  | failed => exact .inr rfl

theorem processed_or_failed {row : InboxMessageRecord J}
    (terminal : row.entry.phase.terminal = true) :
    row.status = .processed ∨ row.status = .failed := by
  unfold InboxMessageRecord.entry at terminal
  cases status : row.status with
  | pending | processing =>
      rw [status] at terminal
      cases terminal
  | processed => exact .inl rfl
  | failed => exact .inr rfl

/-- Before the application is asked about a row of the outbox, every older row of its key has
failed for good, or is published and has a row in the inbox that is finished, as far as the
transport keeps them in order. -/
def AskedInSequence (source : String) (Joined : Outbox.Content J → Outbox.Content J → Prop)
    (outbox : Outbox.Table J) (inbox : Inbox.State V J) : Prop :=
  ∀ call ∈ inbox.consulted, call.query.record.source = source →
    ∀ sent ∈ outbox, sent.messageId = call.query.record.messageId →
      ∀ older ∈ outbox, older.Precedes sent → older.status = .failed ∨
        older.status = .published ∧ (Joined older.content sent.content →
          ∃ row ∈ inbox.table, row.source = source ∧ Mirrors older row.content ∧
            (row.status = .processed ∨ row.status = .failed))

omit [DecidableEq W] in
/-- Where every row of the source is in line, the application is asked in sequence. -/
theorem asked_of_inLine {sending : Deployment W} {receiving : Deployment V} {source : String}
    {Joined : Outbox.Content J → Outbox.Content J → Prop} {mode : V → Inbox.Mode} {clock : Int}
    {outbox : Outbox.Table J} {inbox : Inbox.State V J}
    (fifo : ∀ worker, mode worker = .fifoPerOrderingKey)
    (path : (Worker.machine (Inbox.service receiving mode)).Path
      (InTurn (Inbox.service receiving mode)) (.initial clock) inbox)
    (distinct : (outbox.map (·.messageId)).Nodup)
    (inLine : ∀ row ∈ inbox.table, row.source = source →
      InLine sending source Joined outbox inbox.table row) :
    AskedInSequence source Joined outbox inbox := by
  intro call consulted own sent stored same older olderStored precedes
  obtain ⟨row, present, card⟩ := Worker.consulted_of_path
    (Machine.path_mono (fun _ _ _ => trivial) path) call consulted
  have message := Inbox.message_of_card card
  obtain ⟨terminal, published⟩ :=
    (inLine row present ((congrArg Prod.fst message).trans own)).before distinct stored
      ((congrArg Prod.snd message).trans same.symm) olderStored precedes
  rcases published_or_failed terminal with status | failed
  · refine .inr ⟨status, fun joined => ?_⟩
    obtain ⟨earlier, earlierPresent, ownEarlier, mirrors, before⟩ := published joined status
    have gated : ∀ worker, (Inbox.service (J := J) receiving mode).query worker = .fifo :=
      fun worker => congrArg Inbox.Mode.query (fifo worker)
    have finished := Worker.foremost_of_consulted gated path call consulted earlier
      earlierPresent (card ▸ before)
    exact ⟨earlier, earlierPresent, ownEarlier, mirrors, processed_or_failed finished⟩
  · exact .inl failed

omit [DecidableEq V] in
/-- The row that a call adds to a table. -/
theorem row_of_received {receiving : Deployment V} {arrival : Inbox.Arrival J}
    {table after : Inbox.Table J} {outcome : Inbox.ReceiveOutcome J} {row : InboxMessageRecord J}
    (received : (Inbox.store receiving).receive arrival table = .ok (after, outcome))
    (added : after = table ++ [row]) : row = arrival.row receiving := by
  rcases Inbox.receive_row received with ⟨same, _⟩ | grown
  · rw [same] at added
    exact absurd (List.self_eq_append_right.mp added) (List.cons_ne_nil _ _)
  · exact List.singleton_inj.mp (List.append_cancel_left (added.symm.trans grown))

/-! ## HTTP -/

section Http

variable {lower : String → String} {router : HttpEndpointRouter} {endpoint : HttpInboxEndpoint}
variable {sending : Deployment W} {receiving : Deployment V} {mode : V → Inbox.Mode}
variable {clock inboxClock : Int}
variable {state : Relay.State W J (HttpOutboundRequest J) (Inbox.State V J) HttpResponse}

/-- What is unmasked and short was so before rows were added. -/
theorem allUnmasked_before {before after : Outbox.Table J}
    (kept : ∀ row ∈ before, ∃ later ∈ after, later.content = row.content)
    (unmasked : AllUnmasked lower router after) : AllUnmasked lower router before := by
  intro sent stored endpoint routed
  obtain ⟨later, present, same⟩ := kept sent stored
  simp only [OutboxMessageRecord.content, Outbox.Content.mk.injEq] at same
  obtain ⟨_, messageId, eventType, messageKey, orderingKey, correlationId, _, headers, _⟩ := same
  have stands := unmasked later present endpoint (eventType ▸ routed)
  simp only [FieldsUnmasked, httpMetadata, messageId, eventType, messageKey, orderingKey,
    correlationId, headers] at stands
  exact stands

omit [DecidableEq V] in
theorem allShort_before {source : String} {before after : Outbox.Table J}
    (kept : ∀ row ∈ before, ∃ later ∈ after, later.content = row.content)
    (short : AllShort receiving source after) : AllShort receiving source before := by
  intro mysql
  obtain ⟨shortSource, columns⟩ := short mysql
  refine ⟨shortSource, fun sent stored => ?_⟩
  obtain ⟨later, present, same⟩ := kept sent stored
  simp only [OutboxMessageRecord.content, Outbox.Content.mk.injEq] at same
  obtain ⟨_, messageId, eventType, messageKey, orderingKey, correlationId, _⟩ := same
  have shortColumns := columns later present
  simp only [Outbox.textColumns, messageId, eventType, messageKey, orderingKey, correlationId]
    at shortColumns
  exact shortColumns

/-- Along every run in turn the rows of the source are in line. -/
theorem inLine_of_path (fixes : FixesFields lower)
    (path : (Relay.machine (Relay.httpCarrier lower router endpoint receiving mode) sending).Path
      (Relay.HttpInTurn lower endpoint sending receiving mode inboxClock)
      (.initial clock (.initial inboxClock)) state)
    (unmasked : AllUnmasked lower router state.outbox.table)
    (short : AllShort receiving endpoint.source state.outbox.table) :
    ∀ row ∈ state.delivery.receiver.table, row.source = endpoint.source →
      InLine sending endpoint.source (fun _ _ => True) state.outbox.table
        state.delivery.receiver.table row := by
  induction path with
  | refl =>
      intro row stored
      cases stored
  | @tail before next earlier last ih =>
      obtain ⟨label, inTurn, stepped⟩ := last
      have stepped := Relay.stepped_of_step stepped
      have within := Machine.path_mono (fun _ _ permitted => permitted.2.1) earlier
      have outboxInTurn := Machine.path_mono (fun _ _ permitted => permitted.1) earlier
      obtain ⟨queue, simulates, orderly, _⟩ :=
        Worker.ordered_of_path (fun _ => rfl) (Relay.outbox_inTurn outboxInTurn)
      have kept := stepped.contents_kept simulates inTurn.1
      have unmasked := allUnmasked_before kept unmasked
      have short := allShort_before kept short
      have inLine := ih unmasked short
      suffices received : ∀ row ∈ next.delivery.receiver.table, row.source = endpoint.source →
          InLine sending endpoint.source (fun _ _ => True) before.outbox.table
            next.delivery.receiver.table row by
        intro row stored own
        exact (received row stored own).outbox simulates orderly stepped inTurn.1
      obtain ⟨inboxQueue, inboxSimulates, _⟩ :=
        Worker.evidenced_of_path (http_fulfilled within).sound
      intro row present own
      cases stepped.inboxed inTurn with
      | same same =>
          rw [same] at present ⊢
          exact inLine row present own
      | own inboxLabel elsewhere went _ =>
          rcases inboxSimulates.card_origin went present with
            ⟨origin, stored, card⟩ | ⟨arrival, receipt, rfl, received, added, _⟩
          · exact InLine.inbox inboxSimulates went inLine stored card own
          · have other := row_of_received received added
            rw [other, Inbox.source_row elsewhere.2] at own
            exact absurd own elsewhere.1
      | receive dispatch listed index posted carries envelope made went permitted =>
          rcases inboxSimulates.card_origin went present with
            ⟨origin, stored, card⟩ | ⟨arrival, receipt, labelled, received, added, unknown⟩
          · exact InLine.inbox inboxSimulates went inLine stored card own
          · obtain rfl := Pactix.Worker.Label.receive.inj labelled
            obtain ⟨sent, stored, built, foremost⟩ :=
              Relay.sentInTurn_of_path outboxInTurn dispatch listed
            have fits := fits_of_short fixes unmasked short stored built
            have mirrors : Mirrors sent row.content := by
              apply mirrors_of_read fixes built (unmasked sent stored)
              rw [row_of_received received added,
                Inbox.content_row (Relay.arrival_fits fits carries made)]
              exact Relay.read_envelope endpoint carries made
            rw [added]
            exact InLine.added stored mirrors foremost
              (fun older olderStored _ _ isPublished =>
                http_received fixes within unmasked short older olderStored isPublished)
              (permitted.2 _ (by rw [received]; rfl) row present unknown)

end Http

/-! ## Effects -/

/-- Along every run in turn effects are committed in the order of the rows. -/
theorem sequenced_of_path {deployment : Deployment V} {mode : V → Inbox.Mode} {clock : Int}
    {state : Effects V J} (fifo : ∀ worker, mode worker = .fifoPerOrderingKey)
    (path : (Effects.machine deployment mode).Path (fun state deed =>
        InTurn (Inbox.service deployment mode) state.inbox deed.label ∧
          Effects.Dutiful deployment mode state deed) (.initial clock) state) :
    (Worker.machine (Inbox.service deployment mode)).Path (InTurn (Inbox.service deployment mode))
        (.initial clock) state.inbox ∧
      Effects.Sound deployment mode state ∧ Effects.Sequenced deployment mode state := by
  have gated : ∀ worker, (Inbox.service (J := J) deployment mode).query worker = .fifo :=
    fun worker => congrArg Inbox.Mode.query (fifo worker)
  induction path with
  | refl => exact ⟨.refl, .initial clock, .initial clock⟩
  | @tail before next _ last ih =>
      obtain ⟨deed, ⟨inTurn, dutiful⟩, stepped⟩ := last
      obtain ⟨earlier, sound, sequenced⟩ := ih
      have path := earlier.tail ⟨deed.label, inTurn, Effects.inbox_step stepped⟩
      have distinct : ∀ {inbox : Inbox.State V J},
          (Worker.machine (Inbox.service deployment mode)).Path
            (InTurn (Inbox.service deployment mode)) (.initial clock) inbox →
          (inbox.table.map InboxMessageRecord.message).Nodup := fun path =>
        KafkaInboxConsumer.messages_nodup (Machine.path_mono (fun _ _ _ => trivial) path)
      exact ⟨path, sound.step (distinct earlier) dutiful stepped,
        sequenced.step sound (distinct earlier) (distinct path)
          (fun _ _ asks => Worker.foremost_of_asked gated earlier asks) inTurn dutiful stepped⟩

/-- Of each key the rows of the outbox are handled one after the other: before the application
is asked about one, every older one has failed for good, or has a row that is finished; and
effects are committed in the order of the rows. -/
structure InSequence {V J : Type} (source : String) (outbox : Outbox.Table J)
    (receiver : Effects V J) : Prop where
  asked : ∀ call ∈ receiver.inbox.consulted, call.query.record.source = source →
    ∀ sent ∈ outbox, sent.messageId = call.query.record.messageId →
      ∀ older ∈ outbox, older.Precedes sent → older.status = .failed ∨
        older.status = .published ∧ ∃ row ∈ receiver.inbox.table, row.source = source ∧
          Mirrors older row.content ∧ (row.status = .processed ∨ row.status = .failed)
  applied : receiver.applied.Pairwise fun later earlier =>
    ∀ sent ∈ outbox, ∀ older ∈ outbox, later = (source, older.messageId) →
      earlier = (source, sent.messageId) → older.status = .published → ¬older.Precedes sent

/-- The lines of the request of the second record, as they arrive. -/
def arrivingNext (id : UUID) (time : Int) : Relay.Posted where
  lines := [("x-pactix-message-id", "m2"), ("x-pactix-event-type", "order"),
    ("x-pactix-ordering-key", "customer")]
  id
  time := time * second

/-- A call of the outbox worker that concludes at a time in seconds. -/
def posting (time : Int) (ending : Relay.Ending HttpResponse) :
    Relay.Label Bool Unit Relay.Posted (Deed Bool Unit) HttpResponse :=
  .conclude false { time := time * second, choices := .plain, reply := fun _ => .ok .published }
    ending

/-- The answer to the first request is lost, so that the first row is retried while the second
one waits for it. -/
def inSequenceRun : List (Relay.Label Bool Unit Relay.Posted (Deed Bool Unit) HttpResponse) :=
  [.outbox (appending 1 0 m1), .outbox (appending 2 1 m2), .outbox (.spawn false),
    .outbox (publishing false 2), .outbox (publishing false 2), .send false,
    .arrive 0 (arriving 7 3), posting 4 (.raised "timeout"), .outbox (publishing false 5),
    .outbox (.spawn false), .outbox (publishing false 100), .outbox (publishing false 100),
    .send false, .arrive 1 (arriving 8 101), posting 102 (.answered 0),
    .outbox (publishing false 103), .outbox (.spawn false), .outbox (publishing false 104),
    .outbox (publishing false 104), .send false, .arrive 2 (arrivingNext 9 105),
    posting 106 (.answered 0), .outbox (publishing false 107),
    .own ⟨.spawn true, false⟩, .own (deed true 108 false), .own (deed true 108 false),
    .own (deed true 109 false), .own (deed true 110 true), .own (deed true 111 false),
    .own ⟨.spawn true, false⟩, .own (deed true 112 false), .own (deed true 112 false),
    .own (deed true 113 false), .own (deed true 114 true), .own (deed true 115 false)]

end Pactix.Guarantees
