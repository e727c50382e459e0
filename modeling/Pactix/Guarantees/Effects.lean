import Pactix.Guarantees.Consumption
import Pactix.Guarantees.Relays
import Pactix.Relay.Effects

/-!
# Effects of messages

What the handler does to the application, over redeliveries, crashes and takeovers.
-/

namespace Pactix.Guarantees

open Foundation Worker
open Inbox (Deed Effects InboxMessageRecord Mode)
open Transport (FixesFields HttpEndpointRouter HttpInboxEndpoint HttpOutboundRequest HttpResponse)

/-- The application has let the record pass without the handler. -/
def Passed {Worker J : Type} (mode : Worker → Mode) :
    Consultation Worker (Inbox.Query J) Inbox.Query.Reply → Prop
  | ⟨worker, .staleEventFilter _, decision⟩ => mode worker = .unordered ∧ decision = .stale
  | ⟨_, .idempotencyHook _, decision⟩ => decision = .skip
  | ⟨_, .handler _, _⟩ => False

/-- The effect of no message is committed twice, and none without its row.  A processed row has
its effect committed, unless the application has let it pass. -/
def CommittedOnce {Worker J : Type} (mode : Worker → Mode) (state : Effects Worker J) : Prop :=
  state.applied.Nodup ∧
    (∀ message ∈ state.applied, ∃ row ∈ state.inbox.table, row.message = message) ∧
    ∀ row ∈ state.inbox.table, row.status = .processed → row.message ∈ state.applied ∨
      ∃ call ∈ state.inbox.consulted, call.query.record.content = row.content ∧ Passed mode call

theorem sound_of_effects {Worker J : Type} [DecidableEq Worker] {deployment : Deployment Worker}
    {mode : Worker → Mode} {clock : Int} {state : Effects Worker J}
    (path : (Effects.machine deployment mode).Path (Effects.Dutiful deployment mode)
      (.initial clock) state) :
    Inbox.Reaches deployment mode clock state.inbox ∧ Effects.Sound deployment mode state := by
  induction path with
  | refl => exact ⟨.refl, .initial clock⟩
  | tail _ last ih =>
      obtain ⟨deed, dutiful, stepped⟩ := last
      obtain ⟨reaches, sound⟩ := ih
      exact ⟨reaches.tail ⟨deed.label, trivial, Effects.inbox_step stepped⟩,
        sound.step (Transport.KafkaInboxConsumer.messages_nodup reaches) dutiful stepped⟩

theorem committedOnce_of_sound {Worker J : Type} [DecidableEq Worker]
    {deployment : Deployment Worker} {mode : Worker → Mode} {clock : Int} {state : Effects Worker J}
    (reaches : Inbox.Reaches deployment mode clock state.inbox)
    (sound : Effects.Sound deployment mode state) : CommittedOnce mode state := by
  refine ⟨sound.once, sound.known, fun row stored processed => ?_⟩
  obtain ⟨⟨worker, query, reply⟩, consulted, content, processes⟩ :=
    (processedSoundly_of_path reaches row stored).1 processed
  have message : query.record.message = row.message :=
    congrArg (fun content => (content.source, content.messageId)) content
  have noted := sound.noted _ consulted
  cases query with
  | staleEventFilter record => exact .inr ⟨_, consulted, content, processes⟩
  | idempotencyHook record =>
      rcases processes with skipped | applied
      · exact .inr ⟨_, consulted, content, skipped⟩
      · exact .inl (message ▸ noted applied)
  | handler record => exact .inl (message ▸ noted processes)

/-- While the application keeps its word and leases are kept, the effect of every message is
committed once, whatever is delivered again. -/
theorem effects_committed_once {Worker J : Type} [DecidableEq Worker]
    (deployment : Deployment Worker) (mode : Worker → Mode) (clock : Int) (state : Effects Worker J)
    (path : (Effects.machine deployment mode).Path (Effects.Dutiful deployment mode)
      (.initial clock) state) : CommittedOnce mode state := by
  obtain ⟨reaches, sound⟩ := sound_of_effects path
  exact committedOnce_of_sound reaches sound

/-- Two FIFO workers. -/
def orderly (_ : Bool) : Mode := .fifoPerOrderingKey

/-- What the hook and the handler say. -/
def replying (decision : Inbox.IdempotencyDecision) (outcome : Except Error Inbox.HandleOutcome) :
    (query : Inbox.Query Unit) → Except Error query.Reply
  | .staleEventFilter _ => .ok .fresh
  | .idempotencyHook _ => .ok decision
  | .handler _ => outcome

/-- A call of an inbox worker whose application replies so, and commits an effect or not. -/
def deed (worker : Bool) (time : Int) (commits : Bool)
    (decision : Inbox.IdempotencyDecision := .process)
    (outcome : Except Error Inbox.HandleOutcome := .ok .processed) : Deed Bool Unit :=
  ⟨.act worker { time := time * second, choices := .plain, reply := replying decision outcome },
    commits⟩

/-- The handler loses its connection after it has committed.  The row is delivered again when
its lease is over, and the hook finds the effect. -/
def takenOverRun : List (Deed Bool Unit) :=
  [⟨receiving 1 0 m1, false⟩, ⟨.spawn true, false⟩, deed true 1 false, deed true 1 false,
    deed true 2 false, deed true 3 true .process (.error (.other "connection lost")),
    ⟨.crash true, false⟩, ⟨.spawn false, false⟩, deed false 60 false, deed false 60 false,
    deed false 61 false .alreadyApplied, deed false 62 false]

def takenOver :=
  ((Effects.machine deployment orderly).replay (Effects.Dutiful deployment orderly) (.initial 0)
    takenOverRun).get (by decide +kernel)

theorem effects_committed_once_sample :
    takenOver.applied = [("shop", "m1")] ∧
      (takenOver.inbox.table.map (·.status)) = [.processed] ∧
      CommittedOnce orderly takenOver :=
  ⟨by decide +kernel, by decide +kernel,
    effects_committed_once deployment orderly 0 takenOver (Machine.path_replay ..)⟩

/-! ## From the outbox on -/

/-- What an outbox has sent takes effect once: no effect of a row is committed twice, none of
the source is committed without a row, and that of a published row is committed when its row
in the inbox is processed, unless the application has let it pass. -/
structure TakesEffectOnce {V J : Type} (source : String) (mode : V → Mode)
    (outbox : Outbox.Table J) (receiver : Effects V J) : Prop where
  once : ∀ sent ∈ outbox, receiver.applied.count (source, sent.messageId) ≤ 1
  origin : ∀ messageId, (source, messageId) ∈ receiver.applied →
    ∃ sent ∈ outbox, sent.messageId = messageId
  done : ∀ sent ∈ outbox, sent.status = .published →
    ∃ row ∈ receiver.inbox.table, row.source = source ∧ Mirrors sent row.content ∧
      (row.status = .processed → (source, sent.messageId) ∈ receiver.applied ∨
        ∃ call ∈ receiver.inbox.consulted, call.query.record.content = row.content ∧
          Passed mode call)

/-- The answer is lost and the request repeated, and the worker of the inbox dies when the
handler has committed. -/
def takesEffectRun : List (Relay.Label Bool Unit Relay.Posted (Deed Bool Unit) HttpResponse) :=
  [.outbox (appending 1 0 m1), .outbox (.spawn false), .outbox (publishing false 1),
    .outbox (publishing false 2), .send false, .arrive 0 (arriving 7 3),
    .own ⟨.spawn true, false⟩, .own (deed true 4 false), .own (deed true 4 false),
    .arrive 0 (arriving 8 5),
    .conclude false { time := 6 * second, choices := .plain, reply := fun _ => .ok .published }
      (.answered 1),
    .outbox (publishing false 7), .own (deed true 8 false), .own (deed true 9 true),
    .own ⟨.crash true, false⟩, .own ⟨.spawn false, false⟩, .own (deed false 60 false),
    .own (deed false 60 false), .own (deed false 61 false .alreadyApplied),
    .own (deed false 62 false)]

end Pactix.Guarantees
