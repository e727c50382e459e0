import Pactix.Foundation.Delivery
import Pactix.Outbox.Service
import Pactix.Worker.Consulting

/-!
# From an outbox to a receiver

Outbox workers publish through a transport.  A call of the publisher builds a message, sends it
and waits: for the answer to one of its arrivals, for an answer that somebody else gives on the
way, or until the client raises.  The message may arrive whenever it likes, also when nobody
waits any more.
-/

namespace Pactix.Relay

open Foundation
open Outbox (OutboxMessageRecord PublishOutcome)
open Worker (Context Deployment)

variable {W J Message Event Arrival Own Answer : Type}

/-- A transport: what a record is sent as, how an answer is classified, and who receives. -/
structure Carrier (J Message Inbox Arrival Own Answer : Type)
    extends Receiver Inbox Message Arrival Own Answer where
  build : OutboxMessageRecord J → Except Error Message
  outcome : Answer → PublishOutcome
  build_congr : ∀ {left right}, left.content = right.content → build left = build right

/-- Build, send, classify; `client` is what the client of the transport does. -/
def Carrier.publish {Inbox : Type} (carrier : Carrier J Message Inbox Arrival Own Answer)
    (client : Message → Except String Answer) (record : OutboxMessageRecord J) :
    Except Error PublishOutcome := do
  let message ← carrier.build record
  match client message with
  | .error error => return .retryable error
  | .ok answer => return carrier.outcome answer

/-- The states of an outbox. -/
abbrev OutboxState (W J : Type) :=
  Worker.State W (OutboxMessageRecord J) (OutboxMessageRecord J) Outbox.RunSummary
    (Outbox.Arrival J) (OutboxMessageRecord J) fun _ => PublishOutcome

abbrev OutboxLabel (W J : Type) :=
  Worker.Label W (OutboxMessageRecord J) (OutboxMessageRecord J) (Outbox.Arrival J)
    fun _ => PublishOutcome

/-- The outbox, the delivery, and the dispatch that a worker waits for. -/
structure State (W J Message Inbox Answer : Type) where
  outbox : OutboxState W J
  delivery : Delivery Inbox Message Answer
  waiting : W → Option Nat := fun _ => none

/-- How a call of the client ends. -/
inductive Ending (Answer : Type) where
  /-- With an answer that was given to the dispatch. -/
  | answered (position : Nat)
  /-- With an answer from somewhere else, which is not one of success. -/
  | interposed (answer : Answer)
  /-- With an exception. -/
  | raised (error : String)

/-- What can happen next. -/
inductive Label (W J Arrival Own Answer : Type) where
  /-- A step of a producer or of a worker that does not publish. -/
  | outbox (label : OutboxLabel W J)
  /-- A worker sends the message of the record that it publishes. -/
  | send (worker : W)
  /-- A call of the publisher ends. -/
  | conclude (worker : W)
      (context : Context (OutboxMessageRecord J) (OutboxMessageRecord J) fun _ => PublishOutcome)
      (ending : Ending Answer)
  | arrive (index : Nat) (arrival : Arrival)
  /-- A step of the receiver. -/
  | own (label : Own)

/-- The record that a worker is publishing. -/
def publishing (outbox : OutboxState W J) (worker : W) : Option (OutboxMessageRecord J) :=
  match outbox.request worker with
  | some (.ask record) => some record
  | _ => none

section Step

variable {Inbox : Type} [DecidableEq W]
variable (carrier : Carrier J Message Inbox Arrival Own Answer) (deployment : Deployment W)

/-- What the client gives or raises. -/
def clientResult (dispatch : Dispatch Message Answer) :
    Ending Answer → Option (Except String Answer)
  | .answered position => dispatch.answers[position]?.map .ok
  | .interposed answer =>
      if (carrier.outcome answer).kind = .published then none else some (.ok answer)
  | .raised error => some (.error error)

/-- What `publishers.publish(row)` gives or raises, once it ends so. -/
def concluded (state : State W J Message Inbox Answer) (worker : W)
    (record : OutboxMessageRecord J) (ending : Ending Answer) :
    Option (Except Error PublishOutcome) :=
  match carrier.build record with
  | .error error => some (.error error)
  | .ok _ =>
      match (state.waiting worker).bind (state.delivery.dispatches[·]?) with
      | none => none
      | some dispatch =>
          (clientResult carrier dispatch ending).map fun result =>
            carrier.publish (fun _ => result) record

/-- A step of the outbox; the worker that it is about waits no more. -/
def State.follow (state : State W J Message Inbox Answer) (label : OutboxLabel W J)
    (outbox : OutboxState W J) : State W J Message Inbox Answer :=
  { state with
    outbox
    waiting := match label.actor with
      | none => state.waiting
      | some worker => Function.update state.waiting worker none }

/-- The step ends a call of the publisher. -/
def publishes (outbox : OutboxState W J) : OutboxLabel W J → Bool
  | .act worker _ => (publishing outbox worker).isSome
  | .receive _ | .spawn _ | .crash _ => false

/-- The transition function. -/
def step (state : State W J Message Inbox Answer) :
    Label W J Arrival Own Answer → Option (State W J Message Inbox Answer)
  | .outbox label =>
      if publishes state.outbox label then
        none
      else
        (Worker.step (Outbox.service deployment) state.outbox label).map (state.follow label)
  | .send worker =>
      match publishing state.outbox worker, state.waiting worker with
      | some record, none =>
          match carrier.build record with
          | .error _ => none
          | .ok message => some { state with
              delivery := state.delivery.send message
              waiting := Function.update state.waiting worker
                (some state.delivery.dispatches.length) }
      | _, _ => none
  | .conclude worker context ending =>
      match publishing state.outbox worker with
      | none => none
      | some record =>
          match concluded carrier state worker record ending with
          | none => none
          | some reply =>
              let label : OutboxLabel W J := .act worker { context with reply := fun _ => reply }
              (Worker.step (Outbox.service deployment) state.outbox label).map
                (state.follow label)
  | .arrive index arrival =>
      (carrier.step state.delivery (.arrive index arrival)).map fun delivery =>
        { state with delivery }
  | .own label =>
      (carrier.step state.delivery (.own label)).map fun delivery => { state with delivery }

/-- The machine of a relay. -/
def machine : Machine (State W J Message Inbox Answer) (Label W J Arrival Own Answer) :=
  ⟨step carrier deployment⟩

/-- What a step can be. -/
inductive Stepped (state : State W J Message Inbox Answer) :
    Label W J Arrival Own Answer → State W J Message Inbox Answer → Prop where
  | outbox (label : OutboxLabel W J) (outbox : OutboxState W J)
      (quiet : publishes state.outbox label = false)
      (stepped : Worker.step (Outbox.service deployment) state.outbox label = some outbox) :
      Stepped state (.outbox label) (state.follow label outbox)
  | send (worker : W) (record : OutboxMessageRecord J) (message : Message)
      (asks : publishing state.outbox worker = some record)
      (idle : state.waiting worker = none) (built : carrier.build record = .ok message) :
      Stepped state (.send worker) { state with
        delivery := state.delivery.send message
        waiting := Function.update state.waiting worker (some state.delivery.dispatches.length) }
  | conclude (worker : W) (record : OutboxMessageRecord J)
      (context : Context (OutboxMessageRecord J) (OutboxMessageRecord J) fun _ => PublishOutcome)
      (ending : Ending Answer) (reply : Except Error PublishOutcome) (label : OutboxLabel W J)
      (outbox : OutboxState W J) (asks : publishing state.outbox worker = some record)
      (ended : concluded carrier state worker record ending = some reply)
      (labelled : label = .act worker { context with reply := fun _ => reply })
      (stepped : Worker.step (Outbox.service deployment) state.outbox label = some outbox) :
      Stepped state (.conclude worker context ending) (state.follow label outbox)
  | arrive (index : Nat) (arrival : Arrival) (delivery : Delivery Inbox Message Answer)
      (stepped : carrier.step state.delivery (.arrive index arrival) = some delivery) :
      Stepped state (.arrive index arrival) { state with delivery }
  | own (label : Own) (delivery : Delivery Inbox Message Answer)
      (stepped : carrier.step state.delivery (.own label) = some delivery) :
      Stepped state (.own label) { state with delivery }

variable {carrier deployment} in
theorem stepped_of_step {state after : State W J Message Inbox Answer}
    {label : Label W J Arrival Own Answer}
    (stepped : step carrier deployment state label = some after) :
    Stepped carrier deployment state label after := by
  cases label with
  | outbox label =>
      simp only [step] at stepped
      split at stepped
      next => cases stepped
      next quiet =>
        obtain ⟨outbox, went, rfl⟩ := Option.map_eq_some_iff.mp stepped
        exact .outbox label outbox (Bool.eq_false_of_not_eq_true quiet) went
  | send worker =>
      simp only [step] at stepped
      split at stepped
      next record asks idle =>
        split at stepped
        next => cases stepped
        next message built =>
          obtain rfl := Option.some.inj stepped
          exact .send worker record message asks idle built
      next => cases stepped
  | conclude worker context ending =>
      simp only [step] at stepped
      split at stepped
      next => cases stepped
      next record asks =>
        split at stepped
        next => cases stepped
        next reply ended =>
          obtain ⟨outbox, went, rfl⟩ := Option.map_eq_some_iff.mp stepped
          exact .conclude worker record context ending reply _ outbox asks ended rfl went
  | arrive index arrival =>
      obtain ⟨delivery, went, rfl⟩ := Option.map_eq_some_iff.mp stepped
      exact .arrive index arrival delivery went
  | own label =>
      obtain ⟨delivery, went, rfl⟩ := Option.map_eq_some_iff.mp stepped
      exact .own label delivery went

end Step

end Pactix.Relay
