import Pactix.Relay.Effects
import Pactix.Worker.Precedence

/-!
# A relay in turn

Where producers of the outbox are serial and its workers keep their leases, a row is sent only
when everything before it in its key is finished.
-/

namespace Pactix.Outbox

/-- An earlier row of the same event type and ordering key. -/
def OutboxMessageRecord.Precedes {J : Type} (older row : OutboxMessageRecord J) : Prop :=
  older.entry.card.Older row.entry.card

theorem OutboxMessageRecord.Precedes.eventType {J : Type} {older row : OutboxMessageRecord J}
    (precedes : older.Precedes row) : older.eventType = row.eventType := by
  obtain ⟨keyed, same, _⟩ := precedes
  have keyed : row.key ≠ none := keyed
  obtain ⟨key, keyIs⟩ := Option.ne_none_iff_exists'.mp keyed
  have same : older.key = some key := Eq.trans same keyIs
  obtain ⟨_, _, rfl⟩ := Option.map_eq_some_iff.mp same
  obtain ⟨_, _, found⟩ := Option.map_eq_some_iff.mp keyIs
  exact (congrArg Prod.fst found).symm

end Pactix.Outbox

namespace Pactix.Relay

open Foundation Transport
open Inbox (Effects)
open Outbox (OutboxMessageRecord)
open Worker (Deployment Foremost InTurn)

variable {W J : Type} [DecidableEq W]

section Sending

variable {Message Inbox Arrival Own Answer : Type}

/-- What happens to the outbox happens in turn. -/
def OutboxInTurn (sending : Deployment W) (state : State W J Message Inbox Answer) :
    Label W J Arrival Own Answer → Prop
  | .outbox label => InTurn (Outbox.service sending) state.outbox label
  | .conclude worker context _ =>
      InTurn (Outbox.service sending) state.outbox (.act worker context)
  | .send _ | .arrive _ _ | .own _ => True

instance (sending : Deployment W) (state : State W J Message Inbox Answer)
    (label : Label W J Arrival Own Answer) : Decidable (OutboxInTurn sending state label) :=
  match label with
  | .outbox label =>
      inferInstanceAs (Decidable (InTurn (Outbox.service sending) state.outbox label))
  | .conclude worker context _ => inferInstanceAs (Decidable (
      InTurn (Outbox.service sending) state.outbox (.act worker context)))
  | .send _ | .arrive _ _ | .own _ => isTrue trivial

variable {carrier : Carrier J Message Inbox Arrival Own Answer} {sending : Deployment W}
variable {state after : State W J Message Inbox Answer} {label : Label W J Arrival Own Answer}
variable {clock : Int} {inbox : Inbox}

/-- A step of the relay leaves the outbox as it is, or is a step of the outbox in turn. -/
theorem Stepped.outboxed (stepped : Stepped carrier sending state label after)
    (inTurn : OutboxInTurn sending state label) :
    after.outbox = state.outbox ∨ ∃ outboxLabel,
      Worker.step (Outbox.service sending) state.outbox outboxLabel = some after.outbox ∧
        InTurn (Outbox.service sending) state.outbox outboxLabel := by
  cases stepped with
  | outbox outboxLabel outbox quiet went => exact .inr ⟨outboxLabel, went, inTurn⟩
  | conclude worker record context ending reply outboxLabel outbox asks ended labelled went =>
      subst labelled
      exact .inr ⟨_, went, inTurn⟩
  | send | arrive | own => exact .inl rfl

/-- No row of the outbox is lost. -/
theorem Stepped.contents_kept {queue : Worker.QueueState W (Outbox.Content J)}
    (simulates : Worker.Simulates (Outbox.service sending) state.outbox queue)
    (stepped : Stepped carrier sending state label after)
    (inTurn : OutboxInTurn sending state label) :
    ∀ row ∈ state.outbox.table, ∃ later ∈ after.outbox.table, later.content = row.content := by
  intro row stored
  rcases stepped.outboxed inTurn with same | ⟨outboxLabel, went, _⟩
  · exact ⟨row, same ▸ stored, rfl⟩
  · obtain ⟨later, present, card, _⟩ :=
      simulates.rows_kept (Machine.path_single outboxLabel trivial went) stored
    exact ⟨later, present, congrArg Queue.Card.body card⟩

/-- A foremost row stays one, with the rows that precede it. -/
theorem Stepped.foremost_row {queue : Worker.QueueState W (Outbox.Content J)}
    (simulates : Worker.Simulates (Outbox.service sending) state.outbox queue)
    (orderly : Queue.Orderly queue) (stepped : Stepped carrier sending state label after)
    (inTurn : OutboxInTurn sending state label) {sent : OutboxMessageRecord J}
    (stored : sent ∈ state.outbox.table)
    (foremost : Foremost (Outbox.service sending) state.outbox.table sent) :
    ∃ later ∈ after.outbox.table, later.entry.card = sent.entry.card ∧
      Foremost (Outbox.service sending) after.outbox.table later ∧
      ∀ older ∈ after.outbox.table, older.Precedes later →
        older ∈ state.outbox.table ∧ older.Precedes sent := by
  rcases stepped.outboxed inTurn with same | ⟨outboxLabel, went, permitted⟩
  · rw [same]
    exact ⟨sent, stored, rfl, foremost, fun older present precedes => ⟨present, precedes⟩⟩
  · obtain ⟨later, present, card, stays⟩ :=
      simulates.foremost_row orderly permitted went stored foremost
    have card : later.entry.card = sent.entry.card := card
    refine ⟨later, present, card, stays, fun older olderPresent precedes => ?_⟩
    rw [OutboxMessageRecord.Precedes, card] at precedes
    exact ⟨simulates.older_kept orderly permitted went ⟨sent, stored, rfl⟩ foremost olderPresent
      precedes, precedes⟩

/-- What the outbox goes through happens in turn. -/
theorem outbox_inTurn (path : (machine carrier sending).Path (OutboxInTurn sending)
      (.initial clock inbox) state) :
    (Worker.machine (Outbox.service sending)).Path (InTurn (Outbox.service sending))
      (.initial clock) state.outbox := by
  apply Machine.path_project State.outbox _ path
  intro before label after inTurn stepped
  rcases (stepped_of_step stepped).outboxed inTurn with same | ⟨outboxLabel, went, permitted⟩
  · rw [same]
  · exact Machine.path_single outboxLabel permitted went

/-- Everything that was sent is the message of a row that is foremost in its key. -/
def SentInTurn (carrier : Carrier J Message Inbox Arrival Own Answer) (sending : Deployment W)
    (state : State W J Message Inbox Answer) : Prop :=
  ∀ dispatch ∈ state.delivery.dispatches, ∃ row ∈ state.outbox.table,
    carrier.build row = .ok dispatch.message ∧
      Foremost (Outbox.service sending) state.outbox.table row

theorem sentInTurn_of_path (path : (machine carrier sending).Path (OutboxInTurn sending)
      (.initial clock inbox) state) : SentInTurn carrier sending state := by
  induction path with
  | refl =>
      intro dispatch listed
      cases listed
  | @tail before next earlier last ih =>
      obtain ⟨label, inTurn, stepped⟩ := last
      have outboxPath := outbox_inTurn earlier
      obtain ⟨queue, simulates, orderly, _⟩ := Worker.ordered_of_path (fun _ => rfl) outboxPath
      have stepped := stepped_of_step stepped
      have followed : ∀ outboxLabel outbox,
          Worker.step (Outbox.service sending) before.outbox outboxLabel = some outbox →
          InTurn (Outbox.service sending) before.outbox outboxLabel →
          SentInTurn carrier sending (before.follow outboxLabel outbox) := by
        intro outboxLabel outbox went permitted dispatch listed
        obtain ⟨row, stored, built, foremost⟩ := ih dispatch listed
        obtain ⟨later, present, card, stays⟩ :=
          simulates.foremost_row orderly permitted went stored foremost
        exact ⟨later, present, (carrier.build_congr (congrArg Queue.Card.body card)).trans built,
          stays⟩
      have delivered : ∀ {delivery deliveryLabel}, carrier.Stepped before.delivery deliveryLabel
          delivery → (∀ message, deliveryLabel ≠ .send message) →
          SentInTurn carrier sending { before with delivery } := by
        intro delivery deliveryLabel went silent dispatch listed
        rcases went.mem_dispatches listed with ⟨earlier, present, same, _⟩ | ⟨sends, _⟩
        · obtain ⟨row, stored, built, foremost⟩ := ih earlier present
          exact ⟨row, stored, same ▸ built, foremost⟩
        · exact absurd sends (silent _)
      cases stepped with
      | outbox outboxLabel outbox quiet went => exact followed outboxLabel outbox went inTurn
      | conclude worker record context ending reply outboxLabel outbox asks ended labelled went =>
          subst labelled
          exact followed _ outbox went inTurn
      | send worker record message asks idle built =>
          intro dispatch listed
          rcases List.mem_append.mp listed with earlier | new
          · exact ih dispatch earlier
          · rw [List.mem_singleton.mp new]
            have asked := asked_of_publishing asks
            obtain ⟨row, stored, card⟩ := simulates.held_stored (simulates.asked asked).1
            exact ⟨row, stored, (carrier.build_congr (congrArg Queue.Card.body card)).trans built,
              Worker.foremost_congr card.symm
                (Worker.foremost_of_asked (fun _ => rfl) outboxPath asked)⟩
      | arrive index arrival delivery went =>
          exact delivered (Receiver.stepped_of_step went) (fun _ same => by cases same)
      | own ownLabel delivery went =>
          exact delivered (Receiver.stepped_of_step went) (fun _ same => by cases same)

end Sending

/-! ## HTTP -/

section Http

variable {V : Type} [DecidableEq V]

/-- What happens to the inbox happens in turn, and requests arrive at increasing times. -/
def InboxInTurn (lower : String → String) (endpoint : HttpInboxEndpoint) (receiving : Deployment V)
    (mode : V → Inbox.Mode)
    (state : State W J (HttpOutboundRequest J) (Inbox.State V J) HttpResponse) :
    Label W J Posted (Inbox.Label V J) HttpResponse → Prop
  | .own label => InTurn (Inbox.service receiving mode) state.delivery.receiver label
  | .arrive index posted => ∀ dispatch ∈ state.delivery.dispatches[index]?,
      ∀ row ∈ (served lower endpoint receiving (posted.request dispatch.message)
        state.delivery.receiver).table,
        row.id ∉ state.delivery.receiver.table.map (·.id) →
          Worker.Serial (Inbox.service receiving mode) state.delivery.receiver.table row
  | .outbox _ | .send _ | .conclude _ _ _ => True

instance (lower : String → String) (endpoint : HttpInboxEndpoint) (receiving : Deployment V)
    (mode : V → Inbox.Mode)
    (state : State W J (HttpOutboundRequest J) (Inbox.State V J) HttpResponse)
    (label : Label W J Posted (Inbox.Label V J) HttpResponse) :
    Decidable (InboxInTurn lower endpoint receiving mode state label) :=
  match label with
  | .own ownLabel => inferInstanceAs (Decidable (
      InTurn (Inbox.service receiving mode) state.delivery.receiver ownLabel))
  | .arrive index posted => inferInstanceAs (Decidable (
      ∀ dispatch ∈ state.delivery.dispatches[index]?,
        ∀ row ∈ (served lower endpoint receiving (posted.request dispatch.message)
          state.delivery.receiver).table,
          row.id ∉ state.delivery.receiver.table.map (·.id) →
            Worker.Serial (Inbox.service receiving mode) state.delivery.receiver.table row))
  | .outbox _ | .send _ | .conclude _ _ _ => isTrue trivial

/-- Both ends keep their leases and their keys in turn. -/
def HttpInTurn (lower : String → String) (endpoint : HttpInboxEndpoint)
    (sending : Deployment W) (receiving : Deployment V)
    (mode : V → Inbox.Mode) (clock : Int)
    (state : State W J (HttpOutboundRequest J) (Inbox.State V J) HttpResponse)
    (label : Label W J Posted (Inbox.Label V J) HttpResponse) : Prop :=
  OutboxInTurn sending state label ∧
    Within (httpTerms lower endpoint receiving mode clock) state label ∧
    InboxInTurn lower endpoint receiving mode state label

instance (lower : String → String) (endpoint : HttpInboxEndpoint)
    (sending : Deployment W) (receiving : Deployment V)
    (mode : V → Inbox.Mode) (clock : Int)
    (state : State W J (HttpOutboundRequest J) (Inbox.State V J) HttpResponse)
    (label : Label W J Posted (Inbox.Label V J) HttpResponse) :
    Decidable (HttpInTurn lower endpoint sending receiving mode clock state label) :=
  inferInstanceAs (Decidable (OutboxInTurn sending state label ∧
    Within (httpTerms lower endpoint receiving mode clock) state label ∧
    InboxInTurn lower endpoint receiving mode state label))

variable {lower : String → String} {router : HttpEndpointRouter} {endpoint : HttpInboxEndpoint}
variable {sending : Deployment W} {receiving : Deployment V} {mode : V → Inbox.Mode}
variable {clock inboxClock : Int}
variable {state after : State W J (HttpOutboundRequest J) (Inbox.State V J) HttpResponse}
variable {label : Label W J Posted (Inbox.Label V J) HttpResponse}

/-- A step of the relay leaves the inbox as it is, or is a step of the inbox in turn: one of
its own, or the call of an envelope. -/
inductive Inboxed (lower : String → String) (endpoint : HttpInboxEndpoint)
    (receiving : Deployment V) (mode : V → Inbox.Mode)
    (state : State W J (HttpOutboundRequest J) (Inbox.State V J) HttpResponse)
    (inbox : Inbox.State V J) : Label W J Posted (Inbox.Label V J) HttpResponse → Prop where
  | same {label : Label W J Posted (Inbox.Label V J) HttpResponse}
      (same : inbox = state.delivery.receiver) :
      Inboxed lower endpoint receiving mode state inbox label
  | own (label : Inbox.Label V J) (elsewhere : Inbox.Elsewhere receiving endpoint.source
        state.delivery.receiver label)
      (stepped : Worker.step (Inbox.service receiving mode) state.delivery.receiver label =
        some inbox)
      (inTurn : InTurn (Inbox.service receiving mode) state.delivery.receiver label) :
      Inboxed lower endpoint receiving mode state inbox (.own label)
  | receive (dispatch : Dispatch (HttpOutboundRequest J) HttpResponse)
      (listed : dispatch ∈ state.delivery.dispatches) (index : Nat) (posted : Posted)
      (carries : posted.Carries lower dispatch.message) (envelope : MessageEnvelope J)
      (made : (posted.request dispatch.message).envelope lower = .ok envelope)
      (stepped : Worker.step (Inbox.service receiving mode) state.delivery.receiver
        (.receive (endpoint.arrival (posted.request dispatch.message)
          envelope)) = some inbox)
      (inTurn : InTurn (Inbox.service receiving mode) state.delivery.receiver
        (.receive (endpoint.arrival (posted.request dispatch.message)
          envelope))) : Inboxed lower endpoint receiving mode state inbox (.arrive index posted)

theorem Stepped.inboxed
    (stepped : Stepped (httpCarrier lower router endpoint receiving mode) sending state label after)
    (inTurn : HttpInTurn lower endpoint sending receiving mode clock state label) :
    Inboxed lower endpoint receiving mode state after.delivery.receiver label := by
  obtain ⟨_, within, permitted⟩ := inTurn
  cases stepped with
  | outbox | send | conclude => exact .same rfl
  | own ownLabel delivery went =>
      cases Receiver.stepped_of_step went with
      | own _ receiver goes => exact .own ownLabel within goes permitted
  | arrive index posted delivery went =>
      cases Receiver.stepped_of_step went with
      | arrive _ _ dispatch receiver answer sent took =>
          simp only [httpCarrier] at took
          split at took
          next carries =>
            obtain ⟨rfl, _⟩ := Prod.mk.inj (Option.some.inj took)
            have serial := permitted dispatch sent
            rcases served_step lower endpoint receiving mode (posted.request dispatch.message)
                state.delivery.receiver with
              same | ⟨envelope, table, outcome, made, received, changed, goes⟩
            · exact .same same
            · refine .receive dispatch (List.mem_of_getElem? sent) index posted carries envelope
                made goes ⟨⟨trivial, trivial⟩, ?_⟩
              intro result found row present fresh
              rw [Option.mem_def, show (Inbox.service receiving mode).store.receive _ _ = _ from
                received] at found
              obtain rfl := Option.some.inj found
              exact serial row (changed ▸ present) fresh
          next => cases took

/-- To the application every step of the inbox happens in turn. -/
theorem effects_inTurn
    {start finish : State W J (HttpOutboundRequest J) (Effects V J) HttpResponse}
    (path : (machine ((httpCarrier lower router endpoint receiving mode).upToEffects receiving mode)
      sending).Path
        (Dutifully receiving mode (HttpInTurn lower endpoint sending receiving mode clock))
        start finish) :
    (Effects.machine receiving mode).Path (fun state deed =>
        InTurn (Inbox.service receiving mode) state.inbox deed.label ∧
          Effects.Dutiful receiving mode state deed)
      start.delivery.receiver finish.delivery.receiver := by
  apply Machine.path_project (fun state => state.delivery.receiver) _ path
  intro before label after dutiful stepped
  have unnoted := stepped_of_step (step_unnoted (httpCarrier_serves ..) stepped)
  cases stepped_of_step stepped with
  | outbox | send | conclude => exact .refl
  | own deed delivery went =>
      cases Receiver.stepped_of_step went with
      | own _ receiver goes =>
          exact Machine.path_single deed ⟨dutiful.1.2.2, dutiful.2⟩ goes
  | arrive index posted delivery went =>
      cases Receiver.stepped_of_step went with
      | arrive _ _ dispatch receiver answer sent took =>
          obtain ⟨⟨inbox, given⟩, takes, same⟩ := Option.map_eq_some_iff.mp took
          obtain ⟨rfl, rfl⟩ := Prod.mk.inj same
          cases unnoted.inboxed dutiful.1 with
          | same same =>
              obtain rfl : inbox = before.delivery.receiver.inbox := same
              exact .refl
          | receive request listed _ _ carries envelope made goes permitted =>
              apply Machine.path_single ⟨.receive _, false⟩ ⟨permitted, ⟨trivial, trivial⟩, trivial⟩
              have goes : Worker.step (Inbox.service receiving mode)
                before.delivery.receiver.inbox _ = some inbox := goes
              simp only [Effects.machine, Effects.step, goes]
              rfl

end Http

end Pactix.Relay
