import Pactix.Inbox.Custody
import Pactix.Relay.Runs
import Pactix.Transport.Endpoint
import Pactix.Transport.Publishers

/-!
# Relay over HTTP

The publisher posts requests to an inbox endpoint.  A server hands the header lines of a request
over with their names in lower case.  On the way, lines may be added, as long as none comes
before a metadata header under its name.
-/

namespace Pactix.Relay

open Foundation Transport
open Worker (Deployment)

variable {W J : Type} [DecidableEq W]

/-- How a request arrives: its header lines, and the id and the time that its receipt takes. -/
structure Posted where
  lines : List (String × String)
  id : UUID
  time : Int

/-- The request that arrives.  `dict(request.headers)` has of every name the first line. -/
def Posted.request (posted : Posted) (message : HttpOutboundRequest J) : Request J where
  headers := .ofItems (Dict.firsts posted.lines)
  payload := message.payload
  id := posted.id
  time := posted.time

/-- The headers that carry metadata. -/
def metadataHeaders : List String :=
  [messageIdHeader, eventTypeHeader, messageKeyHeader, orderingKeyHeader, correlationIdHeader]

/-- The first of the sent headers that have a name, in whatever case. -/
def readHeader (lower : String → String) (message : HttpOutboundRequest J) (name : String) :
    Option String :=
  (message.headers.items.find? fun item => decide (lower item.1 = name)).map Prod.snd

/-- The names of the lines are in lower case, and the metadata arrive as they were sent. -/
def Posted.Carries (posted : Posted) (lower : String → String)
    (message : HttpOutboundRequest J) : Prop :=
  (∀ line ∈ posted.lines, lower line.1 = line.1) ∧
    ∀ name ∈ metadataHeaders, Dict.get name posted.lines = readHeader lower message name

instance (posted : Posted) (lower : String → String) (message : HttpOutboundRequest J) :
    Decidable (posted.Carries lower message) :=
  inferInstanceAs (Decidable (_ ∧ _))

omit [DecidableEq W] in
/-- Of names in lower case, the endpoint reads the first line. -/
theorem header_request {lower : String → String} {posted : Posted}
    (lowered : ∀ line ∈ posted.lines, lower line.1 = line.1) (message : HttpOutboundRequest J)
    (name : String) :
    (posted.request message).header lower name = Dict.get name posted.lines := by
  have items : ∀ item ∈ (posted.request message).headers.items, lower item.1 = item.1 := by
    intro item listed
    have known := Dict.mem_keys_update.mp (List.mem_map_of_mem (f := Prod.fst) listed)
    simp only [Dict.firsts, List.map_map, List.map_nil, List.not_mem_nil, false_or] at known
    obtain ⟨line, lineListed, same⟩ := List.mem_map.mp known
    exact same ▸ lowered line lineListed
  have unchanged : HttpInboundMessage.normalized lower (posted.request message).headers =
      (posted.request message).headers := by
    rw [HttpInboundMessage.normalized, List.map_congr_left (g := id), List.map_id,
      Headers.ofItems_items]
    intro item listed
    rw [items item listed]
    rfl
  rw [Request.header, ← get_normalized, unchanged]
  exact Dict.get_firsts posted.lines

section Carrier

variable (lower : String → String) (router : HttpEndpointRouter) (endpoint : HttpInboxEndpoint)
variable (deployment : Deployment W) (mode : W → Inbox.Mode)

omit [DecidableEq W] in
/-- The inbox after a request. -/
def served (request : Request J) (inbox : Inbox.State W J) : Inbox.State W J :=
  let table := (endpoint.handler deployment.dialect lower request
    inbox.table).2
  match request.envelope lower with
  | .error _ => { inbox with table }
  | .ok envelope =>
      let arrival := endpoint.arrival request envelope
      match (Inbox.store deployment).receive arrival inbox.table with
      | .error _ => { inbox with table }
      | .ok (_, outcome) =>
          { inbox with table, receipts := (arrival, outcome) :: inbox.receipts }

/-- What the client gets; what the handler raises is answered by the server around it. -/
def response (request : Request J) (table : Inbox.Table J) : Option HttpResponse :=
  match (endpoint.handler deployment.dialect lower request table).1 with
  | .ok answer => some { status := answer.statusCode, body := some answer.content }
  | .error _ => none

/-- HTTP as a transport between an outbox and an inbox. -/
def httpCarrier : Carrier J (HttpOutboundRequest J) (Inbox.State W J) Posted (Inbox.Label W J)
    HttpResponse where
  take message posted inbox :=
    if posted.Carries lower message then
      some (served lower endpoint deployment (posted.request message) inbox,
        response lower endpoint deployment (posted.request message) inbox.table)
    else
      none
  own label inbox := Worker.step (Inbox.service deployment mode) inbox label
  build := buildRequest router
  outcome := classifyResponse
  build_congr := buildRequest_congr router

/-- The publisher of the relay is the HTTP publisher. -/
theorem publish_httpCarrier (client : HttpOutboundRequest J → Except String HttpResponse) :
    (httpCarrier lower router endpoint deployment mode).publish client =
      httpPublish router client := by
  funext record
  simp only [Carrier.publish, httpPublish, httpCarrier]
  congr 1
  funext message
  cases client message <;> rfl

end Carrier

variable {lower : String → String} {router : HttpEndpointRouter} {endpoint : HttpInboxEndpoint}
variable {deployment : Deployment W} {mode : W → Inbox.Mode} {clock : Int}
variable {message : HttpOutboundRequest J} {posted : Posted} {inbox after : Inbox.State W J}
variable {answer : Option HttpResponse}

omit [DecidableEq W] in
/-- The store of the endpoint is that of the inbox. -/
theorem save_endpoint (endpoint : HttpInboxEndpoint) (deployment : Deployment W)
    {request : Request J} {envelope : MessageEnvelope J}
    (made : request.envelope lower = .ok envelope) (table : Inbox.Table J) :
    endpoint.save deployment.dialect lower request table =
      (Inbox.store deployment).receive (endpoint.arrival request envelope) table := by
  rw [HttpInboxEndpoint.save_eq, made]
  rfl

omit [DecidableEq W] in
/-- What an accepted request does to the inbox is what the call of its envelope does. -/
theorem served_received {request : Request J} {envelope : MessageEnvelope J}
    {table : Inbox.Table J} {outcome : Inbox.ReceiveOutcome J}
    (made : request.envelope lower = .ok envelope)
    (received : (Inbox.store deployment).receive
      (endpoint.arrival request envelope) inbox.table = .ok (table, outcome)) :
    served lower endpoint deployment request inbox = { inbox with
      table
      receipts := (endpoint.arrival request envelope, outcome) ::
        inbox.receipts } := by
  have saved := save_endpoint endpoint deployment made inbox.table
  rw [received] at saved
  simp only [served, made, received, HttpInboxEndpoint.handler, saved]

omit [DecidableEq W] in
/-- A request whose call fails changes nothing. -/
theorem served_failed {request : Request J} {envelope : MessageEnvelope J} {error : Error}
    (made : request.envelope lower = .ok envelope)
    (failed : (Inbox.store deployment).receive
      (endpoint.arrival request envelope) inbox.table = .error error) :
    served lower endpoint deployment request inbox = inbox := by
  have saved := save_endpoint endpoint deployment made inbox.table
  rw [failed] at saved
  simp only [served, made, failed, HttpInboxEndpoint.handler, saved]
  cases error <;> rfl

/-- A request changes nothing, or it is a call of its envelope. -/
theorem served_step (lower : String → String) (endpoint : HttpInboxEndpoint)
    (deployment : Deployment W) (mode : W → Inbox.Mode) (request : Request J)
    (inbox : Inbox.State W J) :
    served lower endpoint deployment request inbox = inbox ∨ ∃ envelope table outcome,
      let arrival := endpoint.arrival request envelope
      request.envelope lower = .ok envelope ∧
        (Inbox.store deployment).receive arrival inbox.table = .ok (table, outcome) ∧
        (served lower endpoint deployment request inbox).table = table ∧
        Worker.step (Inbox.service deployment mode) inbox (.receive arrival) =
          some (served lower endpoint deployment request inbox) := by
  rcases request.envelope_cases lower with ⟨_, envelope, made⟩ | ⟨refused, message, invalid⟩
  · cases received : (Inbox.store deployment).receive
        (endpoint.arrival request envelope) inbox.table with
    | error error => exact .inl (served_failed made received)
    | ok result =>
        obtain ⟨table, outcome⟩ := result
        have serves := served_received made received
        refine .inr ⟨envelope, table, outcome, made, received, by rw [serves], ?_⟩
        have kept : (Inbox.service deployment mode).store.receive _ inbox.table = _ := received
        simp only [Worker.step, kept, serves]
  · left
    obtain ⟨content, handled⟩ := HttpInboxEndpoint.handler_refused endpoint
      deployment.dialect inbox.table refused
    simp only [served, handled, invalid]

omit [DecidableEq W] in
/-- A response of success is given once the call is committed. -/
theorem received_of_response {request : Request J} {table : Inbox.Table J}
    {answer : HttpResponse} (given : response lower endpoint deployment request table = some answer)
    (success : (classifyResponse answer).kind = .published) :
    ∃ envelope after outcome, request.envelope lower = .ok envelope ∧
      (Inbox.store deployment).receive (endpoint.arrival request envelope)
        table = .ok (after, outcome) := by
  rw [classifyResponse_published] at success
  rcases request.envelope_cases lower with ⟨_, envelope, made⟩ | ⟨refused, message, invalid⟩
  · have saved := save_endpoint endpoint deployment made table
    cases received : (Inbox.store deployment).receive
        (endpoint.arrival request envelope) table with
    | ok result => exact ⟨envelope, result.1, result.2, made, received⟩
    | error error =>
        rw [received] at saved
        simp only [response, HttpInboxEndpoint.handler, saved] at given
        -- The handler answers 400 or 500, or raises.
        cases error <;> simp only [Option.some.injEq, reduceCtorEq] at given <;>
          subst given <;> simp at success
  · obtain ⟨content, handled⟩ := HttpInboxEndpoint.handler_refused endpoint
      deployment.dialect table refused
    simp only [response, handled, Option.some.injEq] at given
    subst given
    simp at success

/-! ## Terms -/

/-- A row has the fields of a message. -/
structure Read (lower : String → String) (message : HttpOutboundRequest J)
    (content : Inbox.Content J) : Prop where
  messageId : readHeader lower message messageIdHeader = some content.messageId
  eventType : readHeader lower message eventTypeHeader = some content.eventType
  messageKey : readHeader lower message messageKeyHeader = content.messageKey
  orderingKey : readHeader lower message orderingKeyHeader = content.orderingKey
  correlationId : readHeader lower message correlationIdHeader = content.correlationId
  payload : content.payload = message.payload

/-- MySQL stores the metadata of a message as they are. -/
def HttpFits (lower : String → String) (endpoint : HttpInboxEndpoint) (deployment : Deployment W)
    (message : HttpOutboundRequest J) : Prop :=
  deployment.dialect = .mysql → Inbox.Short endpoint.source ∧
    (∀ name ∈ [messageIdHeader, eventTypeHeader, orderingKeyHeader, correlationIdHeader],
      ∀ value ∈ readHeader lower message name, Inbox.Short value) ∧
    ∀ key ∈ readHeader lower message messageKeyHeader, TextType.text.Holds key

/-- A message that is answered with success has a row under the source, and rows under the
source have the fields of messages. -/
def httpTerms (lower : String → String) (endpoint : HttpInboxEndpoint) (deployment : Deployment W)
    (mode : W → Inbox.Mode) (clock : Int) :
    Terms (Inbox.State W J) (HttpOutboundRequest J) (Inbox.Label W J) HttpResponse
      (Inbox.Content J) where
  Allowed := Inbox.Elsewhere deployment endpoint.source
  Sound := Inbox.Reaches deployment mode clock
  Fits := HttpFits lower endpoint deployment
  Effective answer := (classifyResponse answer).kind = .published
  Has message inbox := ∃ messageId, readHeader lower message messageIdHeader = some messageId ∧
    ∃ row ∈ inbox.table, row.message = (endpoint.source, messageId)
  Holds inbox content := content.source = endpoint.source ∧
    ∃ row ∈ inbox.table, row.content = content
  From := Read lower

instance (lower : String → String) (endpoint : HttpInboxEndpoint) (deployment : Deployment W)
    (mode : W → Inbox.Mode) (clock : Int) (inbox : Inbox.State W J) (label : Inbox.Label W J) :
    Decidable ((httpTerms lower endpoint deployment mode clock).Allowed inbox label) :=
  inferInstanceAs (Decidable (Inbox.Elsewhere deployment endpoint.source inbox label))

omit [DecidableEq W] in
/-- The envelope of a request that arrives has the fields of its message. -/
theorem read_envelope (endpoint : HttpInboxEndpoint)
    (carries : posted.Carries lower message) {envelope : MessageEnvelope J}
    (made : (posted.request message).envelope lower = .ok envelope) :
    Read lower message (endpoint.arrival (posted.request message) envelope).content := by
  obtain ⟨messageId, eventType, messageKey, orderingKey, correlationId, _, payload⟩ :=
    Request.envelope_fields made
  have arrived : ∀ name ∈ metadataHeaders, (posted.request message).header lower name =
      readHeader lower message name := fun name listed =>
    (header_request carries.1 message name).trans (carries.2 name listed)
  simp only [metadataHeaders, List.forall_mem_cons] at arrived
  obtain ⟨sentId, sentType, sentKey, sentOrder, sentCorrelation, _⟩ := arrived
  constructor
  case messageId => exact sentId.symm.trans messageId
  case eventType => exact sentType.symm.trans eventType
  case messageKey => exact sentKey.symm.trans messageKey.symm
  case orderingKey => exact sentOrder.symm.trans orderingKey.symm
  case correlationId => exact sentCorrelation.symm.trans correlationId.symm
  case payload => exact payload

omit [DecidableEq W] in
/-- A message that fits makes a call that fits. -/
theorem arrival_fits (fits : HttpFits lower endpoint deployment message)
    (carries : posted.Carries lower message) {envelope : MessageEnvelope J}
    (made : (posted.request message).envelope lower = .ok envelope)
    (mysql : deployment.dialect = .mysql) :
    (endpoint.arrival (posted.request message) envelope).Fits := by
  have read := read_envelope endpoint carries made
  obtain ⟨shortSource, short, room⟩ := fits mysql
  simp only [List.forall_mem_cons] at short
  obtain ⟨shortId, shortType, shortKey, shortCorrelation, _⟩ := short
  refine ⟨?_, fun key keyed => room key (read.messageKey.trans keyed)⟩
  constructor
  case source => exact shortSource
  case messageId => exact shortId _ read.messageId
  case eventType => exact shortType _ read.eventType
  case orderingKey => exact fun key keyed => shortKey key (read.orderingKey.trans keyed)
  case correlationId =>
    exact fun correlation correlated =>
      shortCorrelation correlation (read.correlationId.trans correlated)

/-- The endpoint honours the terms. -/
theorem httpCarrier_honours :
    (httpCarrier (J := J) lower router endpoint deployment mode).Honours
      (httpTerms lower endpoint deployment mode clock) := by
  have took : ∀ {message posted inbox after answer},
      (httpCarrier (J := J) lower router endpoint deployment mode).take message posted inbox =
        some (after, answer) → posted.Carries lower message ∧
          after = served lower endpoint deployment (posted.request message) inbox ∧
          answer = response lower endpoint deployment (posted.request message) inbox.table := by
    intro message posted inbox after answer took
    simp only [httpCarrier] at took
    split at took
    next carries =>
      obtain ⟨rfl, rfl⟩ := Prod.mk.inj (Option.some.inj took)
      exact ⟨carries, rfl, rfl⟩
    next => cases took
  constructor
  case sound_take =>
    intro message posted inbox after answer reaches taken
    obtain ⟨_, rfl, _⟩ := took taken
    rcases served_step lower endpoint deployment mode (posted.request message) inbox with
        same | ⟨envelope, table, outcome, _, _, _, stepped⟩
    · rw [same]
      exact reaches
    · exact reaches.tail ⟨.receive _, trivial, stepped⟩
  case sound_own =>
    intro label inbox after reaches _ stepped
    exact reaches.tail ⟨label, trivial, stepped⟩
  case answered =>
    intro message posted inbox after answer reaches fits taken effective
    obtain ⟨carries, rfl, given⟩ := took taken
    obtain ⟨envelope, table, outcome, made, received⟩ :=
      received_of_response given.symm effective
    have read := read_envelope endpoint carries made
    refine ⟨_, read.messageId, ?_⟩
    rw [served_received made received]
    exact Inbox.message_received (arrival_fits fits carries made) received
  case kept_take =>
    rintro message posted inbox after answer other reaches taken
      ⟨messageId, reads, row, stored, named⟩
    obtain ⟨_, rfl, _⟩ := took taken
    rcases served_step lower endpoint deployment mode (posted.request message) inbox with
        same | ⟨envelope, table, outcome, _, _, _, stepped⟩
    · rw [same]
      exact ⟨messageId, reads, row, stored, named⟩
    · obtain ⟨kept, keptStored, sameContent⟩ := Inbox.content_kept reaches stepped stored
      refine ⟨messageId, reads, kept, keptStored, ?_⟩
      rw [← named]
      exact congrArg (fun content => (content.source, content.messageId)) sameContent
  case kept_own =>
    rintro label inbox after other reaches _ stepped ⟨messageId, reads, row, stored, named⟩
    obtain ⟨kept, keptStored, sameContent⟩ := Inbox.content_kept reaches stepped stored
    refine ⟨messageId, reads, kept, keptStored, ?_⟩
    rw [← named]
    exact congrArg (fun content => (content.source, content.messageId)) sameContent
  case new_take =>
    rintro message posted inbox after answer content reaches fits taken ⟨own, row, stored, rfl⟩
    obtain ⟨carries, rfl, _⟩ := took taken
    rcases served_step lower endpoint deployment mode (posted.request message) inbox with
        same | ⟨envelope, table, outcome, made, _, _, stepped⟩
    · exact .inl ⟨own, row, same ▸ stored, rfl⟩
    · rcases Inbox.content_step reaches stepped stored with
        ⟨earlier, before, sameContent⟩ | ⟨arrival, labelled, rfl⟩
      · exact .inl ⟨own, earlier, before, sameContent⟩
      · obtain rfl := Pactix.Worker.Label.receive.inj labelled
        right
        rw [Inbox.content_row (arrival_fits fits carries made)]
        exact read_envelope endpoint carries made
  case new_own =>
    rintro label inbox after content reaches elsewhere stepped ⟨own, row, stored, rfl⟩
    obtain ⟨earlier, before, sameContent⟩ :=
      Inbox.content_elsewhere reaches stepped elsewhere stored own
    exact ⟨own, earlier, before, sameContent⟩

end Pactix.Relay
