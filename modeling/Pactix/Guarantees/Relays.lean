import Pactix.Guarantees.Groups
import Pactix.Guarantees.Outcomes
import Pactix.Relay.Http
import Pactix.Relay.Kafka

/-!
# Relayed messages

From the outbox of one service to the inbox of another: what is published has been received,
once, and what has been received was sent, whatever crashes, repeats or gets lost on the way.
-/

namespace Pactix.Guarantees

open Foundation Transport
open Inbox (InboxMessageRecord)
open Outbox (OutboxMessageRecord)
open Worker (Deployment)

variable {W J : Type}

/-- A received row has the fields of a record that was sent. -/
structure Mirrors (sent : OutboxMessageRecord J) (content : Inbox.Content J) : Prop where
  messageId : content.messageId = sent.messageId
  eventType : content.eventType = sent.eventType
  messageKey : content.messageKey = sent.messageKey
  orderingKey : content.orderingKey = sent.orderingKey
  correlationId : content.correlationId = sent.correlationId
  payload : content.payload = sent.payload

/-- What an inbox has under a source is what an outbox has sent. -/
structure Relayed (source : String) (outbox : Outbox.Table J) (inbox : Inbox.State W J)
    (Due : OutboxMessageRecord J → Prop) : Prop where
  /-- What is due is there, with the fields of the record. -/
  received : ∀ sent ∈ outbox, Due sent →
    ∃ row ∈ inbox.table, row.source = source ∧ Mirrors sent row.content
  /-- Nothing else is. -/
  origin : ∀ row ∈ inbox.table, row.source = source → ∃ sent ∈ outbox, Mirrors sent row.content
  /-- Nothing is there twice. -/
  once : ∀ row ∈ inbox.table, (inbox.table.map (·.message)).count row.message = 1
  /-- Callbacks are asked about nothing else. -/
  handled : ∀ call ∈ inbox.consulted, call.query.record.source = source →
    ∃ sent ∈ outbox, Mirrors sent call.query.record.content

/-! ## Both ends -/

section Ends

variable [DecidableEq W] {deployment : Deployment W} {clock : Int}

/-- No two rows of an outbox have the same message id. -/
theorem outbox_messages_nodup {outbox : Relay.OutboxState W J}
    (path : (Worker.machine (Outbox.service deployment)).Path Machine.Free (.initial clock)
      outbox) : (outbox.table.map (·.messageId)).Nodup := by
  induction path with
  | refl => exact List.nodup_nil
  | tail earlier last ih =>
      obtain ⟨label, _, stepped⟩ := last
      have stepped : Worker.step (Outbox.service deployment) _ label = some _ := stepped
      by_cases receives : ∃ arrival, label = .receive arrival
      · obtain ⟨arrival, rfl⟩ := receives
        cases Worker.stepped_of_step stepped with
        | reject => exact ih
        | receive _ table record received =>
            obtain ⟨rfl, _, unknown⟩ := Outbox.insert_eq_ok (Outbox.append_eq_ok received)
            rw [List.map_append]
            exact ih.append (List.nodup_singleton _) (List.disjoint_singleton.mpr unknown)
      · obtain ⟨queue, simulates, _⟩ := Worker.evidenced_of_path earlier
        have cards := simulates.cards_kept stepped fun arrival same => receives ⟨arrival, same⟩
        have ids := congrArg (List.map fun card => card.body.messageId) cards
        rw [List.map_map, List.map_map] at ids
        exact ids ▸ ih

/-- The metadata of every row of an outbox are valid. -/
theorem outbox_valid {outbox : Relay.OutboxState W J}
    (path : (Worker.machine (Outbox.service deployment)).Path Machine.Free (.initial clock)
      outbox) : ∀ row ∈ outbox.table, row.metadata.validate = .ok () := by
  induction path with
  | refl =>
      intro row stored
      cases stored
  | @tail before next earlier last ih =>
      obtain ⟨label, _, stepped⟩ := last
      have stepped : Worker.step (Outbox.service deployment) before label = some next := stepped
      intro row stored
      by_cases receives : ∃ arrival, label = .receive arrival
      · obtain ⟨arrival, rfl⟩ := receives
        cases Worker.stepped_of_step stepped with
        | reject => exact ih row stored
        | receive _ table record received =>
            obtain ⟨rfl, _, _⟩ := Outbox.insert_eq_ok (Outbox.append_eq_ok received)
            rcases List.mem_append.mp stored with old | new
            · exact ih row old
            · rw [List.mem_singleton.mp new]
              exact arrival.envelope.valid
      · obtain ⟨queue, simulates, _⟩ := Worker.evidenced_of_path earlier
        have cards := simulates.cards_kept stepped fun arrival same => receives ⟨arrival, same⟩
        have card : row.entry.card ∈ before.table.map fun row => row.entry.card := by
          have membership : row.entry.card ∈ next.table.map fun row => row.entry.card :=
            List.mem_map_of_mem stored
          exact cards ▸ membership
        obtain ⟨old, oldStored, same⟩ := List.mem_map.mp card
        have content : old.content = row.content := congrArg Queue.Card.body same
        simp only [OutboxMessageRecord.content, Outbox.Content.mk.injEq] at content
        obtain ⟨_, messageId, eventType, messageKey, orderingKey, correlationId, _, headers, _⟩ :=
          content
        have metadata : row.metadata = old.metadata := by
          simp only [OutboxMessageRecord.metadata, messageId, eventType, messageKey, orderingKey,
            correlationId, headers]
        rw [metadata]
        exact ih old oldStored

/-- What rows under a source come from, callbacks about them come from. -/
theorem handled_of_origin {mode : W → Inbox.Mode} {inbox : Inbox.State W J} {source : String}
    {outbox : Outbox.Table J} (reaches : Inbox.Reaches deployment mode clock inbox)
    (origin : ∀ row ∈ inbox.table, row.source = source →
      ∃ sent ∈ outbox, Mirrors sent row.content)
    {call : Worker.Consultation W (Inbox.Query J) Inbox.Query.Reply}
    (consulted : call ∈ inbox.consulted) (own : call.query.record.source = source) :
    ∃ sent ∈ outbox, Mirrors sent call.query.record.content := by
  obtain ⟨row, stored, sameCard⟩ := Worker.consulted_of_path reaches call consulted
  have sameContent : row.content = call.query.record.content := congrArg Queue.Card.body sameCard
  have sameSource : row.source = source := (congrArg Inbox.Content.source sameContent).trans own
  obtain ⟨sent, outboxed, mirrors⟩ := origin row stored sameSource
  exact ⟨sent, outboxed, sameContent ▸ mirrors⟩

end Ends

/-! ## HTTP -/

section Http

variable {lower : String → String} {router : HttpEndpointRouter} {sent : OutboxMessageRecord J}
variable {message : HttpOutboundRequest J}

/-- No header of the endpoint or of the record is a metadata header in another case, and none
stands in for a field that is absent. -/
def FieldsUnmasked (lower : String → String) (endpoint : HttpEndpoint)
    (sent : OutboxMessageRecord J) : Prop :=
  ∀ field ∈ httpMetadata sent,
    ∀ name ∈ (endpoint.headers.update sent.headers).items.map Prod.fst,
      lower name = field.1 → name = field.1 ∧ field.2.isSome = true

instance (lower : String → String) (endpoint : HttpEndpoint) (sent : OutboxMessageRecord J) :
    Decidable (FieldsUnmasked lower endpoint sent) :=
  inferInstanceAs (Decidable (∀ field ∈ _, ∀ name ∈ _, _ → _))

/-- The metadata of no record are masked by the headers of its endpoint or its own. -/
def AllUnmasked (lower : String → String) (router : HttpEndpointRouter)
    (outbox : Outbox.Table J) : Prop :=
  ∀ sent ∈ outbox, ∀ endpoint ∈ router.endpoints sent.eventType,
    FieldsUnmasked lower endpoint sent

instance (lower : String → String) (router : HttpEndpointRouter) (outbox : Outbox.Table J) :
    Decidable (AllUnmasked lower router outbox) :=
  inferInstanceAs (Decidable (∀ sent ∈ outbox, ∀ endpoint ∈ router.endpoints sent.eventType,
    FieldsUnmasked lower endpoint sent))

/-- A MySQL inbox stores source and metadata as they are: the text columns of the outbox, which
have the same types, have room for them. -/
def AllShort (deployment : Deployment W) (source : String) (outbox : Outbox.Table J) : Prop :=
  deployment.dialect = .mysql → Inbox.Short source ∧ ∀ sent ∈ outbox,
    ∀ column ∈ Outbox.textColumns sent, ∀ value ∈ column.2.2, column.2.1.Holds value

/-- A field that is not masked is the first header of its name. -/
theorem first_setPresent (fixes : FixesFields lower) {endpoint : HttpEndpoint}
    (unmasked : FieldsUnmasked lower endpoint sent) {name : String} {field : Option String}
    (listed : (name, field) ∈ httpMetadata sent) :
    (((endpoint.headers.update sent.headers).setPresent (httpFields sent)).items.find?
      fun item => decide (lower item.1 = name)).map Prod.snd = field := by
  let headers := endpoint.headers.update sent.headers
  have fixed : ∀ item ∈ httpFields sent, lower item.1 = item.1 := fun item membership =>
    fixes item.1 (List.mem_map_of_mem (f := Prod.fst) membership)
  have names : ((httpFields sent).map Prod.fst).Nodup := by
    simp only [httpFields, httpMetadata, List.map_cons, List.map_nil]
    decide
  have member : (name, field) ∈ httpFields sent := List.mem_cons_of_mem _ listed
  have only : ∀ other ∈ (headers.setPresent (httpFields sent)).items.map Prod.fst,
      decide (lower other = name) = true → other = name := by
    intro other known isName
    rcases Dict.mem_keys_setPresent.mp known with ⟨item, itemListed, rfl, _⟩ | own
    · exact (fixed item itemListed).symm.trans (of_decide_eq_true isName)
    · exact (unmasked _ listed other own (of_decide_eq_true isName)).1
  rw [Dict.find_eq_get (fun other => decide (lower other = name))
    (decide_eq_true (fixed _ member)) only]
  cases field with
  | some value => exact Headers.get_setPresent names member
  | none =>
      have kept : (headers.setPresent (httpFields sent)).get name = headers.get name := by
        apply Headers.get_setPresent_of_not
        rintro ⟨other, value⟩ otherListed present same
        have pair := List.inj_on_of_nodup_map names member otherListed same.symm
        simp only [Prod.mk.injEq] at pair
        simp [← pair.2] at present
      refine kept.trans ?_
      rw [Headers.get, Dict.get, Option.map_eq_none_iff, List.find?_eq_none]
      intro item itemListed isName
      have isField := of_decide_eq_true isName
      have stands := unmasked _ listed item.1 (List.mem_map_of_mem itemListed)
        (isField ▸ fixed _ member)
      exact absurd stands.2 (by simp)

/-- The receiver reads in a request the metadata of its record. -/
theorem read_built (fixes : FixesFields lower) (built : buildRequest router sent = .ok message)
    (unmasked : ∀ endpoint ∈ router.endpoints sent.eventType,
      FieldsUnmasked lower endpoint sent) :
    (∀ field ∈ httpMetadata sent, Relay.readHeader lower message field.1 = field.2) ∧
      message.payload = sent.payload := by
  cases routed : router.endpoints sent.eventType with
  | none =>
      simp only [buildRequest, HttpEndpointRouter.resolve, routed] at built
      cases built
  | some endpoint =>
      obtain rfl := Except.ok.inj ((buildRequest_routed routed).symm.trans built)
      exact ⟨fun _ listed => first_setPresent fixes (unmasked endpoint routed) listed, rfl⟩

/-- What has the fields of a request has those of its record. -/
theorem mirrors_of_read {content : Inbox.Content J} (fixes : FixesFields lower)
    (built : buildRequest router sent = .ok message)
    (unmasked : ∀ endpoint ∈ router.endpoints sent.eventType,
      FieldsUnmasked lower endpoint sent)
    (read : Relay.Read lower message content) : Mirrors sent content := by
  obtain ⟨fields, payload⟩ := read_built fixes built unmasked
  simp only [httpMetadata, List.forall_mem_cons] at fields
  obtain ⟨messageId, eventType, messageKey, orderingKey, correlationId, _⟩ := fields
  constructor
  case messageId => exact Option.some.inj (read.messageId.symm.trans messageId)
  case eventType => exact Option.some.inj (read.eventType.symm.trans eventType)
  case messageKey => exact read.messageKey.symm.trans messageKey
  case orderingKey => exact read.orderingKey.symm.trans orderingKey
  case correlationId => exact read.correlationId.symm.trans correlationId
  case payload => exact read.payload.trans payload

/-- The request of a record whose columns are short fits. -/
theorem fits_of_short {deployment : Deployment W} {endpoint : HttpInboxEndpoint}
    {outbox : Outbox.Table J} (fixes : FixesFields lower)
    (unmasked : AllUnmasked lower router outbox)
    (short : AllShort deployment endpoint.source outbox) (stored : sent ∈ outbox)
    (built : buildRequest router sent = .ok message) :
    Relay.HttpFits lower endpoint deployment message := by
  intro mysql
  obtain ⟨shortSource, columns⟩ := short mysql
  obtain ⟨fields, _⟩ := read_built fixes built (unmasked sent stored)
  have shortColumns := columns sent stored
  simp only [httpMetadata, Outbox.textColumns, List.forall_mem_cons] at fields shortColumns
  obtain ⟨messageId, eventType, messageKey, orderingKey, correlationId, _⟩ := fields
  obtain ⟨shortId, shortType, room, shortKey, shortCorrelation, _⟩ := shortColumns
  refine ⟨shortSource, ?_, messageKey ▸ room⟩
  simp only [List.forall_mem_cons, messageId, eventType, orderingKey, correlationId]
  exact ⟨shortId, shortType, shortKey, shortCorrelation, by simp⟩

end Http

section HttpRuns

variable {V : Type} [DecidableEq W] [DecidableEq V] {lower : String → String}
variable {router : HttpEndpointRouter} {endpoint : HttpInboxEndpoint}
variable {sending : Deployment W} {receiving : Deployment V}
variable {mode : V → Inbox.Mode} {clock inboxClock : Int}
variable {state : Relay.State W J (HttpOutboundRequest J) (Inbox.State V J) HttpResponse}

/-- Answers and rows of the inbox keep what HTTP promises. -/
theorem http_fulfilled
    (path : (Relay.machine (Relay.httpCarrier lower router endpoint receiving mode)
      sending).Path (Relay.Within (Relay.httpTerms lower endpoint receiving mode inboxClock))
      (.initial clock (.initial inboxClock)) state) :
    (Relay.httpTerms lower endpoint receiving mode inboxClock).Fulfilled state.delivery :=
  Relay.fulfilled_of_path Relay.httpCarrier_honours path
    { sound := .refl
      acknowledged := by
        intro _ dispatch listed
        cases listed
      traced := by
        rintro _ content ⟨_, row, stored, _⟩
        cases stored }

/-- Every request that was sent fits, as it is that of a record. -/
theorem http_fits (fixes : FixesFields lower)
    (path : (Relay.machine (Relay.httpCarrier lower router endpoint receiving mode)
      sending).Path (Relay.Within (Relay.httpTerms lower endpoint receiving mode inboxClock))
      (.initial clock (.initial inboxClock)) state)
    (unmasked : AllUnmasked lower router state.outbox.table)
    (short : AllShort receiving endpoint.source state.outbox.table) :
    ∀ dispatch ∈ state.delivery.dispatches,
      Relay.HttpFits lower endpoint receiving dispatch.message := by
  intro dispatch listed
  obtain ⟨sent, stored, built⟩ := (Relay.sound_of_path path).sent dispatch listed
  exact fits_of_short fixes unmasked short stored built

/-- Rows of the source are those of records of the outbox. -/
theorem http_origin (fixes : FixesFields lower)
    (path : (Relay.machine (Relay.httpCarrier lower router endpoint receiving mode)
      sending).Path (Relay.Within (Relay.httpTerms lower endpoint receiving mode inboxClock))
      (.initial clock (.initial inboxClock)) state)
    (unmasked : AllUnmasked lower router state.outbox.table)
    (short : AllShort receiving endpoint.source state.outbox.table) :
    ∀ row ∈ state.delivery.receiver.table, row.source = endpoint.source →
      ∃ sent ∈ state.outbox.table, Mirrors sent row.content := by
  intro row stored own
  obtain ⟨dispatch, listed, read⟩ := (http_fulfilled path).traced
    (http_fits fixes path unmasked short) row.content ⟨own, row, stored, rfl⟩
  obtain ⟨sent, outboxed, built⟩ := (Relay.sound_of_path path).sent dispatch listed
  exact ⟨sent, outboxed, mirrors_of_read fixes built (unmasked sent outboxed) read⟩

/-- A record that is published has its row. -/
theorem http_received (fixes : FixesFields lower)
    (path : (Relay.machine (Relay.httpCarrier lower router endpoint receiving mode)
      sending).Path (Relay.Within (Relay.httpTerms lower endpoint receiving mode inboxClock))
      (.initial clock (.initial inboxClock)) state)
    (unmasked : AllUnmasked lower router state.outbox.table)
    (short : AllShort receiving endpoint.source state.outbox.table) :
    ∀ sent ∈ state.outbox.table, sent.status = .published →
      ∃ row ∈ state.delivery.receiver.table, row.source = endpoint.source ∧
        Mirrors sent row.content := by
  intro sent outboxed isPublished
  have outboxPath := Relay.outbox_path path
  obtain ⟨call, consulted, sameContent, kind⟩ :=
    (publishedSoundly_of_path outboxPath sent outboxed).1 isPublished
  obtain ⟨dispatch, listed, built, answer, given, success⟩ :=
    (Relay.sound_of_path path).published call consulted kind
  obtain ⟨messageId, reads, row, stored, named⟩ := (http_fulfilled path).acknowledged
    (http_fits fixes path unmasked short) dispatch listed answer given success
  have sentBuilt : buildRequest router sent = .ok dispatch.message := by
    rw [← built]
    exact (buildRequest_congr router sameContent).symm
  -- The row is that of the record: no other record of the outbox has its message id.
  obtain ⟨fields, _⟩ := read_built fixes sentBuilt (unmasked sent outboxed)
  have own : row.source = endpoint.source := congrArg Prod.fst named
  have sameId : row.messageId = sent.messageId := by
    have ids := (fields (messageIdHeader, some sent.messageId) (by simp [httpMetadata])).symm.trans
      reads
    exact (congrArg Prod.snd named).trans (Option.some.inj ids).symm
  obtain ⟨other, otherStored, mirrors⟩ := http_origin fixes path unmasked short row stored own
  have same : other = sent := List.inj_on_of_nodup_map (outbox_messages_nodup outboxPath)
    otherStored outboxed (mirrors.messageId.symm.trans sameId)
  exact ⟨row, stored, own, same ▸ mirrors⟩

end HttpRuns

/-- An endpoint that sets a header of its own. -/
def warehouse : HttpEndpoint where
  method := "POST"
  url := "https://warehouse/inbox"
  headers := .ofItems [("authorization", "secret")]

def warehouseRouter : HttpEndpointRouter := HttpEndpointRouter.register {} "order" warehouse

/-- What the endpoint leads to. -/
def warehouseInbox : HttpInboxEndpoint := { source := "shop", config := twoAttempts }

/-- The lines of the request of a record, as they arrive. -/
def arriving (id : UUID) (time : Int) : Relay.Posted where
  lines := [("host", "warehouse"), ("x-pactix-message-id", "m1"),
    ("x-pactix-event-type", "order"), ("x-pactix-ordering-key", "customer")]
  id
  time := time * second

/-- The answer to the first post is lost, and the request is repeated on the way: only the
second arrival is answered in time. -/
def relayingRun : List (Relay.Label Bool Unit Relay.Posted InboxLabel HttpResponse) :=
  [.outbox (appending 1 0 m1), .outbox (.spawn false), .outbox (publishing false 1),
    .outbox (publishing false 2), .send false, .arrive 0 (arriving 7 3), .own (.spawn false),
    .own (handling false 4), .arrive 0 (arriving 8 5),
    .conclude false { time := 6 * second, choices := .plain, reply := fun _ => .ok .published }
      (.answered 1),
    .outbox (publishing false 7), .own (handling false 8), .own (handling false 9)]

section Kafka

variable {M : Type} {codec : JsonCodec J} {router : KafkaTopicRouter} {group : KafkaGroup M J}
variable {sent : OutboxMessageRecord J} {record : ConsumerRecord}

instance (sent : OutboxMessageRecord J) : Decidable (NoKafkaStandIn sent) :=
  decidable_of_iff ((sent.orderingKey = none → sent.headers.get "ordering_key" = none) ∧
      (sent.correlationId = none → sent.headers.get "correlation_id" = none))
    ⟨fun absent => ⟨absent.1, absent.2⟩, fun noStandIn => ⟨noStandIn.orderingKey,
      noStandIn.correlationId⟩⟩

/-- The record is what the broker has made of the message of an outbox record. -/
def Carries (codec : JsonCodec J) (router : KafkaTopicRouter) (sent : OutboxMessageRecord J)
    (record : ConsumerRecord) : Prop :=
  ∃ message partition offset, buildMessage codec router sent = .ok message ∧
    record = Relay.delivered message partition offset

/-- The consumer restores what a record carries. -/
theorem restored (carries : Carries group.codec router sent record)
    (valid : sent.metadata.validate = .ok ()) (noStandIn : NoKafkaStandIn sent) :
    ∃ envelope, group.normalize record = .ok envelope ∧ Restores sent envelope := by
  obtain ⟨message, partition, offset, built, rfl⟩ := carries
  have routed : (router.topics sent.eventType).isSome = true := by
    cases topic : router.topics sent.eventType with
    | some => rfl
    | none =>
        simp only [buildMessage, KafkaTopicRouter.resolve, topic] at built
        cases built
  have roundTrips : KafkaRoundTrips group.codec router sent :=
    kafkaRoundTrips valid routed noStandIn
  obtain ⟨other, inbound, envelope, produced, decoded, made, restores, _⟩ :=
    roundTrips message.topic partition offset
  obtain rfl := Except.ok.inj (built.symm.trans produced)
  refine ⟨envelope, ?_, restores⟩
  rw [KafkaGroup.normalize, Relay.delivered, decoded]
  exact made

/-- A MySQL inbox stores the metadata of a restored record as they are. -/
theorem fits_of_restores {deployment : Deployment W} {source : String} {outbox : Outbox.Table J}
    {arrival : Inbox.Arrival J} (short : AllShort deployment source outbox)
    (stored : sent ∈ outbox) (own : arrival.source = source)
    (restores : Restores sent arrival.envelope) (mysql : deployment.dialect = .mysql) :
    arrival.Fits := by
  obtain ⟨shortSource, columns⟩ := short mysql
  have shortColumns := columns sent stored
  simp only [Outbox.textColumns, List.forall_mem_cons] at shortColumns
  obtain ⟨shortId, shortType, room, shortKey, shortCorrelation, _⟩ := shortColumns
  refine ⟨?_, fun key keyed => room key (restores.messageKey.symm.trans keyed)⟩
  constructor
  case source =>
    rw [Inbox.Arrival.received, own]
    exact shortSource
  case messageId =>
    rw [Inbox.Arrival.received, restores.messageId]
    exact shortId _ rfl
  case eventType =>
    rw [Inbox.Arrival.received, restores.eventType]
    exact shortType _ rfl
  case orderingKey =>
    exact fun key keyed => shortKey key (restores.orderingKey.symm.trans keyed)
  case correlationId =>
    exact fun correlation correlated =>
      shortCorrelation correlation (restores.correlationId.symm.trans correlated)

end Kafka

section KafkaRuns

variable {M V : Type} [DecidableEq M] [DecidableEq W] [DecidableEq V] {router : KafkaTopicRouter}
variable {group : KafkaGroup M J} {sending : Deployment W} {receiving : Deployment V}
variable {mode : V → Inbox.Mode} {clock inboxClock : Int}
variable {state : Relay.State W J KafkaProducedMessage (KafkaGroup.State M V J) Unit}

/-- Acknowledgements and the log keep what Kafka promises. -/
theorem kafka_fulfilled
    (path : (Relay.machine (Relay.kafkaCarrier router group receiving mode) sending).Path
      (Relay.Within (Relay.kafkaTerms group receiving mode inboxClock))
      (.initial clock (.initial inboxClock)) state) :
    (Relay.kafkaTerms group receiving mode inboxClock).Fulfilled state.delivery :=
  Relay.fulfilled_of_path Relay.kafkaCarrier_honours path
    { sound := .refl
      acknowledged := by
        intro _ dispatch listed
        cases listed
      traced := by
        intro _ record listed
        cases listed }

/-- Every record in the log carries a row of the outbox. -/
theorem kafka_carried
    (path : (Relay.machine (Relay.kafkaCarrier router group receiving mode) sending).Path
      (Relay.Within (Relay.kafkaTerms group receiving mode inboxClock))
      (.initial clock (.initial inboxClock)) state) :
    ∀ record ∈ state.delivery.receiver.log, ∃ sent ∈ state.outbox.table,
      Carries group.codec router sent record := by
  intro record listed
  obtain ⟨dispatch, dispatched, partition, offset, rfl⟩ :=
    (kafka_fulfilled path).traced (fun _ _ => trivial) record listed
  obtain ⟨sent, outboxed, built⟩ := (Relay.sound_of_path path).sent dispatch dispatched
  exact ⟨sent, outboxed, dispatch.message, partition, offset, built, rfl⟩

/-- What is published is in the log. -/
theorem kafka_published
    (path : (Relay.machine (Relay.kafkaCarrier router group receiving mode) sending).Path
      (Relay.Within (Relay.kafkaTerms group receiving mode inboxClock))
      (.initial clock (.initial inboxClock)) state) :
    ∀ sent ∈ state.outbox.table, sent.status = .published →
      ∃ record ∈ state.delivery.receiver.log, Carries group.codec router sent record := by
  intro sent outboxed isPublished
  obtain ⟨call, consulted, sameContent, kind⟩ :=
    (publishedSoundly_of_path (Relay.outbox_path path) sent outboxed).1 isPublished
  obtain ⟨dispatch, listed, built, answer, given, _⟩ :=
    (Relay.sound_of_path path).published call consulted kind
  obtain ⟨partition, offset, produced⟩ :=
    (kafka_fulfilled path).acknowledged (fun _ _ => trivial) dispatch listed answer given trivial
  refine ⟨_, produced, dispatch.message, partition, offset, ?_, rfl⟩
  exact (buildMessage_congr group.codec router sameContent).symm.trans built

/-- The envelope of every record in the log has the fields of its row. -/
theorem kafka_restored
    (path : (Relay.machine (Relay.kafkaCarrier router group receiving mode) sending).Path
      (Relay.Within (Relay.kafkaTerms group receiving mode inboxClock))
      (.initial clock (.initial inboxClock)) state)
    (noStandIn : ∀ sent ∈ state.outbox.table, NoKafkaStandIn sent)
    {sent : OutboxMessageRecord J} (outboxed : sent ∈ state.outbox.table)
    {record : ConsumerRecord} (carries : Carries group.codec router sent record)
    {envelope : MessageEnvelope J} (normalized : group.normalize record = .ok envelope) :
    Restores sent envelope := by
  obtain ⟨other, same, restores⟩ :=
    restored carries (outbox_valid (Relay.outbox_path path) sent outboxed) (noStandIn sent outboxed)
  exact Except.ok.inj (normalized.symm.trans same) ▸ restores

/-- Rows of the source are those of rows of the outbox. -/
theorem kafka_origin
    (path : (Relay.machine (Relay.kafkaCarrier router group receiving mode) sending).Path
      (Relay.Within (Relay.kafkaTerms group receiving mode inboxClock))
      (.initial clock (.initial inboxClock)) state)
    (noStandIn : ∀ sent ∈ state.outbox.table, NoKafkaStandIn sent)
    (short : AllShort receiving group.source state.outbox.table) :
    ∀ row ∈ state.delivery.receiver.inbox.table, row.source = group.source →
      ∃ sent ∈ state.outbox.table, Mirrors sent row.content := by
  intro row stored own
  obtain ⟨record, listed, arrival, source, normalized, content⟩ :=
    KafkaGroup.consumed_of_path (kafka_fulfilled path).sound stored own
  obtain ⟨sent, outboxed, carries⟩ := kafka_carried path record listed
  have restores := kafka_restored path noStandIn outboxed carries normalized
  rw [content, Inbox.content_row (fits_of_restores short outboxed source restores)]
  exact ⟨sent, outboxed, restores.messageId, restores.eventType, restores.messageKey,
    restores.orderingKey, restores.correlationId, restores.payload⟩

/-- MySQL need not cut the message id of a record in the log. -/
theorem kafka_uncut
    (path : (Relay.machine (Relay.kafkaCarrier router group receiving mode) sending).Path
      (Relay.Within (Relay.kafkaTerms group receiving mode inboxClock))
      (.initial clock (.initial inboxClock)) state)
    (noStandIn : ∀ sent ∈ state.outbox.table, NoKafkaStandIn sent)
    (short : AllShort receiving group.source state.outbox.table) :
    ∀ record ∈ state.delivery.receiver.log, group.Uncut receiving.dialect record := by
  intro record listed mysql
  obtain ⟨sent, outboxed, carries⟩ := kafka_carried path record listed
  refine ⟨(short mysql).1, fun envelope normalized => ?_⟩
  have restores := kafka_restored path noStandIn outboxed carries normalized
  exact restores.messageId ▸ (short mysql).2 sent outboxed
    ("message_id", .varchar, some sent.messageId) (by simp [Outbox.textColumns]) _ rfl

/-- The row of a record that is stored is that of the row which the record carries. -/
theorem kafka_received
    (path : (Relay.machine (Relay.kafkaCarrier router group receiving mode) sending).Path
      (Relay.Within (Relay.kafkaTerms group receiving mode inboxClock))
      (.initial clock (.initial inboxClock)) state)
    (noStandIn : ∀ sent ∈ state.outbox.table, NoKafkaStandIn sent)
    (short : AllShort receiving group.source state.outbox.table)
    {sent : OutboxMessageRecord J} (outboxed : sent ∈ state.outbox.table)
    {record : ConsumerRecord} (carries : Carries group.codec router sent record)
    (received : group.Stored state.delivery.receiver.inbox.table record) :
    ∃ row ∈ state.delivery.receiver.inbox.table, row.source = group.source ∧
      Mirrors sent row.content := by
  obtain ⟨envelope, normalized, present⟩ := received
  have restores := kafka_restored path noStandIn outboxed carries normalized
  obtain ⟨row, stored, named⟩ := List.mem_map.mp present
  have own : row.source = group.source := congrArg Prod.fst named
  have sameId : row.messageId = sent.messageId :=
    (congrArg Prod.snd named).trans restores.messageId
  obtain ⟨twin, twinStored, mirrors⟩ := kafka_origin path noStandIn short row stored own
  have isSent : twin = sent := List.inj_on_of_nodup_map
    (outbox_messages_nodup (Relay.outbox_path path)) twinStored outboxed
    (mirrors.messageId.symm.trans sameId)
  exact ⟨row, stored, own, isSent ▸ mirrors⟩

end KafkaRuns

/-- A call of the outbox worker that concludes at a time in seconds. -/
def concluding {Answer : Type} (time : Int) (ending : Relay.Ending Answer) :
    Relay.Label Bool Unit (Int × Int) (KafkaGroup.Label Bool Bool Unit) Answer :=
  .conclude false { time := time * second, choices := .plain, reply := fun _ => .ok .published }
    ending

/-- The acknowledgement of the first send is lost, so the row is retried and produced twice.
The group reads both records. -/
def producingTwiceRun :
    List (Relay.Label Bool Unit (Int × Int) (KafkaGroup.Label Bool Bool Unit) Unit) :=
  [.outbox (appending 1 0 m1), .outbox (.spawn false), .outbox (publishing false 1),
    .outbox (publishing false 2), .send false, .arrive 0 (3, 0), concluding 4 (.raised "timeout"),
    .outbox (publishing false 5), .outbox (.spawn false), .outbox (publishing false 100),
    .outbox (publishing false 101), .send false, .arrive 1 (3, 1), concluding 102 (.answered 0),
    .outbox (publishing false 103), .own (.assign true ("orders", 3)),
    .own (.save true ("orders", 3) 7 (104 * second)), .own (.commit true),
    .own (.save true ("orders", 3) 8 (105 * second)), .own (.commit true)]

end Pactix.Guarantees
