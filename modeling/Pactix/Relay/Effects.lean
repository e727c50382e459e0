import Pactix.Inbox.Effects
import Pactix.Relay.Http

/-!
# A relay up to the effects

The relay with an application behind the inbox.  What the application notes is not seen by the
relay, and the application sees the relay as one more producer.
-/

namespace Pactix.Relay

open Foundation
open Inbox (Deed Effects)
open Transport (HttpEndpointRouter HttpInboxEndpoint)
open Worker (Deployment)

variable {W V J Message Arrival Answer : Type} [DecidableEq W] [DecidableEq V]

section Carrier

variable (carrier : Carrier J Message (Inbox.State V J) Arrival (Inbox.Label V J) Answer)
variable (deployment : Deployment V) (mode : V → Inbox.Mode)

/-- The transport of a carrier to an inbox with an application. -/
def Carrier.upToEffects : Carrier J Message (Effects V J) Arrival (Deed V J) Answer where
  take message arrival state :=
    (carrier.take message arrival state.inbox).map fun taken =>
      ({ state with inbox := taken.1 }, taken.2)
  own deed state := Effects.step deployment mode state deed
  build := carrier.build
  outcome := carrier.outcome
  build_congr := carrier.build_congr

end Carrier

/-- What the relay sees. -/
def State.unnoted (state : State W J Message (Effects V J) Answer) :
    State W J Message (Inbox.State V J) Answer where
  outbox := state.outbox
  delivery := {
    receiver := state.delivery.receiver.inbox
    dispatches := state.delivery.dispatches }
  waiting := state.waiting

/-- What the relay sees of a step. -/
def Label.unnoted : Label W J Arrival (Deed V J) Answer →
    Label W J Arrival (Inbox.Label V J) Answer
  | .outbox label => .outbox label
  | .send worker => .send worker
  | .conclude worker context ending => .conclude worker context ending
  | .arrive index arrival => .arrive index arrival
  | .own deed => .own deed.label

/-- The relay keeps to its permission, and the application to its word. -/
def Dutifully (deployment : Deployment V) (mode : V → Inbox.Mode)
    (permitted : State W J Message (Inbox.State V J) Answer →
      Label W J Arrival (Inbox.Label V J) Answer → Prop)
    (state : State W J Message (Effects V J) Answer)
    (label : Label W J Arrival (Deed V J) Answer) : Prop :=
  permitted state.unnoted label.unnoted ∧
    match label with
    | .own deed => Effects.Dutiful deployment mode state.delivery.receiver deed
    | .outbox _ | .send _ | .conclude _ _ _ | .arrive _ _ => True

instance (deployment : Deployment V) (mode : V → Inbox.Mode)
    (permitted : State W J Message (Inbox.State V J) Answer →
      Label W J Arrival (Inbox.Label V J) Answer → Prop)
    [∀ state label, Decidable (permitted state label)]
    (state : State W J Message (Effects V J) Answer)
    (label : Label W J Arrival (Deed V J) Answer) :
    Decidable (Dutifully deployment mode permitted state label) :=
  match label with
  | .own deed => inferInstanceAs (Decidable (
      permitted state.unnoted (.own deed.label) ∧
        Effects.Dutiful deployment mode state.delivery.receiver deed))
  | .outbox outboxLabel => inferInstanceAs (Decidable (
      permitted state.unnoted (.outbox outboxLabel) ∧ True))
  | .send worker => inferInstanceAs (Decidable (
      permitted state.unnoted (.send worker) ∧ True))
  | .conclude worker context ending => inferInstanceAs (Decidable (
      permitted state.unnoted (.conclude worker context ending) ∧ True))
  | .arrive index arrival => inferInstanceAs (Decidable (
      permitted state.unnoted (.arrive index arrival) ∧ True))

/-! ## Projections -/

section Projections

variable {carrier : Carrier J Message (Inbox.State V J) Arrival (Inbox.Label V J) Answer}
variable {sending : Deployment W} {receiving : Deployment V} {mode : V → Inbox.Mode}
variable {permitted : State W J Message (Inbox.State V J) Answer →
  Label W J Arrival (Inbox.Label V J) Answer → Prop}
variable {start state : State W J Message (Effects V J) Answer}

/-- Workers of the inbox do what workers do, and what arrives is received or refused. -/
structure Carrier.Serves (carrier : Carrier J Message (Inbox.State V J) Arrival (Inbox.Label V J)
    Answer) (deployment : Deployment V) (mode : V → Inbox.Mode) : Prop where
  own : ∀ label inbox, carrier.own label inbox =
    Worker.step (Inbox.service deployment mode) inbox label
  take : ∀ {message arrival inbox after answer},
    carrier.take message arrival inbox = some (after, answer) → after = inbox ∨ ∃ received,
      Worker.step (Inbox.service deployment mode) inbox (.receive received) = some after

/-- Without the notes of the application a step is one of the relay. -/
theorem step_unnoted (serves : carrier.Serves receiving mode)
    {label : Label W J Arrival (Deed V J) Answer} {after : State W J Message (Effects V J) Answer}
    (stepped : step (carrier.upToEffects receiving mode) sending state label = some after) :
    step carrier sending state.unnoted label.unnoted = some after.unnoted := by
  cases stepped_of_step stepped with
  | outbox outboxLabel outbox quiet went =>
      simp only [Label.unnoted, step, State.unnoted, quiet, went]
      rfl
  | send worker record message asks idle built =>
      have made : carrier.build record = .ok message := built
      simp only [Label.unnoted, step, State.unnoted, asks, idle, made]
      rfl
  | conclude worker record context ending reply outboxLabel outbox asks ended labelled went =>
      have asked : publishing state.unnoted.outbox worker = some record := asks
      have concludes : concluded carrier state.unnoted worker record ending = some reply := ended
      subst labelled
      have went : Worker.step (Outbox.service sending) state.unnoted.outbox
          (.act worker { context with reply := fun _ => reply }) = some outbox := went
      simp only [Label.unnoted, step, asked, concludes, went]
      rfl
  | arrive index arrival delivery went =>
      cases Receiver.stepped_of_step went with
      | arrive _ _ dispatch receiver answer sent took =>
          have found : state.unnoted.delivery.dispatches[index]? = some dispatch := sent
          obtain ⟨⟨inbox, given⟩, takes, same⟩ := Option.map_eq_some_iff.mp took
          obtain ⟨rfl, rfl⟩ := Prod.mk.inj same
          have takes : carrier.take dispatch.message arrival state.unnoted.delivery.receiver =
              some (inbox, given) := takes
          simp only [Label.unnoted, step, Receiver.step, found, takes]
          rfl
  | own deed delivery went =>
      cases Receiver.stepped_of_step went with
      | own _ receiver goes =>
          have worked : carrier.own deed.label state.unnoted.delivery.receiver =
              some receiver.inbox := by
            rw [serves.own]
            exact Effects.inbox_step goes
          simp only [Label.unnoted, step, Receiver.step, worked]
          rfl

/-- Without the notes of the application the run is one of the relay. -/
theorem path_unnoted (serves : carrier.Serves receiving mode)
    (path : (machine (carrier.upToEffects receiving mode) sending).Path
      (Dutifully receiving mode permitted) start state) :
    (machine carrier sending).Path permitted start.unnoted state.unnoted := by
  apply Machine.path_project State.unnoted _ path
  intro before label after dutiful stepped
  exact Machine.path_single label.unnoted dutiful.1 (step_unnoted serves stepped)

/-- To the application the relay is one more producer. -/
theorem effects_path (serves : carrier.Serves receiving mode)
    (path : (machine (carrier.upToEffects receiving mode) sending).Path
      (Dutifully receiving mode permitted) start state) :
    (Effects.machine receiving mode).Path (Effects.Dutiful receiving mode)
      start.delivery.receiver state.delivery.receiver := by
  apply Machine.path_project (fun state => state.delivery.receiver) _ path
  intro before label after dutiful stepped
  cases stepped_of_step stepped with
  | outbox | send | conclude => exact .refl
  | own deed delivery went =>
      cases Receiver.stepped_of_step went with
      | own _ receiver goes => exact Machine.path_single deed dutiful.2 goes
  | arrive index arrival delivery went =>
      cases Receiver.stepped_of_step went with
      | arrive _ _ dispatch receiver answer sent took =>
          obtain ⟨⟨inbox, given⟩, takes, same⟩ := Option.map_eq_some_iff.mp took
          obtain ⟨rfl, rfl⟩ := Prod.mk.inj same
          rcases serves.take takes with rfl | ⟨received, stepped⟩
          · exact .refl
          · apply Machine.path_single ⟨.receive received, false⟩ ⟨⟨trivial, trivial⟩, trivial⟩
            simp only [Effects.machine, Effects.step, stepped]
            rfl

end Projections

/-- The endpoint receives or refuses. -/
theorem httpCarrier_serves (lower : String → String) (router : HttpEndpointRouter)
    (endpoint : HttpInboxEndpoint) (deployment : Deployment V) (mode : V → Inbox.Mode) :
    (httpCarrier (J := J) lower router endpoint deployment mode).Serves deployment mode where
  own _ _ := rfl
  take := by
    intro message posted inbox after answer took
    simp only [httpCarrier] at took
    split at took
    next =>
      obtain ⟨rfl, _⟩ := Prod.mk.inj (Option.some.inj took)
      rcases served_step lower endpoint deployment mode (posted.request message) inbox with
        same | ⟨envelope, table, outcome, _, _, _, stepped⟩
      · exact .inl same
      · exact .inr ⟨_, stepped⟩
    next => cases took

end Pactix.Relay
