import Pactix.Foundation.Machine
import Mathlib.Data.List.Basic

/-!
# Delivery at least once

Messages go from senders to a receiver.  What was sent may arrive at any time, any number of
times or never, and so may the answer.
-/

namespace Pactix.Foundation

variable {State Message Arrival Own Answer : Type}

/-- What is done with a message that arrives, with or without an answer, and what happens
besides. -/
structure Receiver (State Message Arrival Own Answer : Type) where
  take : Message → Arrival → State → Option (State × Option Answer)
  own : Own → State → Option State

/-- A message that was sent, and the answers that were given to it, in order. -/
structure Dispatch (Message Answer : Type) where
  message : Message
  answers : List Answer := []

/-- The receiver, and what was sent to it, in order. -/
structure Delivery (State Message Answer : Type) where
  receiver : State
  dispatches : List (Dispatch Message Answer) := []

/-- What can happen next. -/
inductive Delivery.Label (Message Arrival Own : Type) where
  | send (message : Message)
  /-- A message that was sent arrives, for the first time or again. -/
  | arrive (index : Nat) (arrival : Arrival)
  | own (label : Own)

namespace Delivery

/-- Something is sent. -/
def send (delivery : Delivery State Message Answer) (message : Message) :
    Delivery State Message Answer :=
  { delivery with dispatches := delivery.dispatches ++ [{ message }] }

/-- The receiver has taken a dispatch. -/
def taken (delivery : Delivery State Message Answer) (index : Nat)
    (dispatch : Dispatch Message Answer) (receiver : State) (answer : Option Answer) :
    Delivery State Message Answer where
  receiver
  dispatches := delivery.dispatches.set index
    { dispatch with answers := dispatch.answers ++ answer.toList }

/-- Everything that was sent and answered still is. -/
def Grows (before after : Delivery State Message Answer) : Prop :=
  ∀ (index : Nat) dispatch, before.dispatches[index]? = some dispatch →
    ∃ later : Dispatch Message Answer, after.dispatches[index]? = some later ∧
      later.message = dispatch.message ∧ ∀ answer ∈ dispatch.answers, answer ∈ later.answers

end Delivery

namespace Receiver

/-- The transition function. -/
def step (receiver : Receiver State Message Arrival Own Answer)
    (delivery : Delivery State Message Answer) :
    Delivery.Label Message Arrival Own → Option (Delivery State Message Answer)
  | .send message => some (delivery.send message)
  | .arrive index arrival =>
      match delivery.dispatches[index]? with
      | none => none
      | some dispatch =>
          (receiver.take dispatch.message arrival delivery.receiver).map fun taken =>
            delivery.taken index dispatch taken.1 taken.2
  | .own label =>
      (receiver.own label delivery.receiver).map fun receiver => { delivery with receiver }

/-- What a step can be. -/
inductive Stepped (receiver : Receiver State Message Arrival Own Answer)
    (delivery : Delivery State Message Answer) :
    Delivery.Label Message Arrival Own → Delivery State Message Answer → Prop where
  | send (message : Message) : Stepped receiver delivery (.send message) (delivery.send message)
  | arrive (index : Nat) (arrival : Arrival) (dispatch : Dispatch Message Answer)
      (after : State) (answer : Option Answer)
      (sent : delivery.dispatches[index]? = some dispatch)
      (took : receiver.take dispatch.message arrival delivery.receiver = some (after, answer)) :
      Stepped receiver delivery (.arrive index arrival)
        (delivery.taken index dispatch after answer)
  | own (label : Own) (after : State) (went : receiver.own label delivery.receiver = some after) :
      Stepped receiver delivery (.own label) { delivery with receiver := after }

variable {receiver : Receiver State Message Arrival Own Answer}
variable {delivery after : Delivery State Message Answer}
variable {label : Delivery.Label Message Arrival Own}

theorem stepped_of_step (stepped : receiver.step delivery label = some after) :
    Stepped receiver delivery label after := by
  cases label with
  | send message =>
      obtain rfl := Option.some.inj stepped
      exact .send message
  | arrive index arrival =>
      simp only [step] at stepped
      split at stepped
      next => cases stepped
      next dispatch sent =>
        obtain ⟨⟨later, answer⟩, took, rfl⟩ := Option.map_eq_some_iff.mp stepped
        exact .arrive index arrival dispatch later answer sent took
  | own label =>
      obtain ⟨later, went, rfl⟩ := Option.map_eq_some_iff.mp stepped
      exact .own label later went

/-- A dispatch after a step was there before, maybe with fewer answers, or has just been
sent. -/
theorem Stepped.mem_dispatches (stepped : Stepped receiver delivery label after)
    {dispatch : Dispatch Message Answer} (listed : dispatch ∈ after.dispatches) :
    (∃ earlier ∈ delivery.dispatches, earlier.message = dispatch.message ∧
      ∀ answer ∈ dispatch.answers, answer ∈ earlier.answers ∨
        ∃ index arrival, label = .arrive index arrival ∧
          receiver.take dispatch.message arrival delivery.receiver =
            some (after.receiver, some answer)) ∨
    label = .send dispatch.message ∧ dispatch.answers = [] := by
  cases stepped with
  | send message =>
      rcases List.mem_append.mp listed with earlier | new
      · exact .inl ⟨dispatch, earlier, rfl, fun answer given => .inl given⟩
      · rw [List.mem_singleton.mp new]
        exact .inr ⟨rfl, rfl⟩
  | own => exact .inl ⟨dispatch, listed, rfl, fun answer given => .inl given⟩
  | arrive index arrival sent later answer found took =>
      left
      rcases List.mem_or_eq_of_mem_set listed with earlier | rfl
      · exact ⟨dispatch, earlier, rfl, fun answer given => .inl given⟩
      · refine ⟨sent, List.mem_of_getElem? found, rfl, fun other given => ?_⟩
        rcases List.mem_append.mp given with before | now
        · exact .inl before
        · rw [Option.mem_toList] at now
          obtain rfl : answer = some other := now
          exact .inr ⟨index, arrival, rfl, took⟩

/-- Nothing that was sent or answered is taken back. -/
theorem Stepped.grows (stepped : Stepped receiver delivery label after) :
    delivery.Grows after := by
  intro index dispatch found
  cases stepped with
  | send message =>
      refine ⟨dispatch, ?_, rfl, fun answer given => given⟩
      rw [Delivery.send, List.getElem?_append_left, found]
      exact (List.getElem?_eq_some_iff.mp found).1
  | own => exact ⟨dispatch, found, rfl, fun answer given => given⟩
  | arrive other arrival sent later answer otherFound took =>
      by_cases same : other = index
      · subst same
        obtain rfl := Option.some.inj (found.symm.trans otherFound)
        refine ⟨{ dispatch with answers := dispatch.answers ++ answer.toList }, ?_, rfl, ?_⟩
        · rw [Delivery.taken, List.getElem?_set_self]
          exact (List.getElem?_eq_some_iff.mp found).1
        · intro earlier given
          exact List.mem_append_left _ given
      · refine ⟨dispatch, ?_, rfl, fun answer given => given⟩
        rw [Delivery.taken, List.getElem?_set_ne same]
        exact found

end Receiver

/-! ## Terms of a delivery -/

/-- What sender and receiver agree on. -/
structure Terms (State Message Own Answer Fact : Type) where
  /-- The steps that the receiver may take by itself. -/
  Allowed : State → Own → Prop
  /-- What the receiver always keeps up. -/
  Sound : State → Prop
  /-- The messages that the receiver is made for. -/
  Fits : Message → Prop
  /-- The answers that acknowledge a message. -/
  Effective : Answer → Prop
  Has : Message → State → Prop
  /-- The facts of which every one has to come from a message. -/
  Holds : State → Fact → Prop
  From : Message → Fact → Prop

variable {Fact : Type}

/-- The receiver acknowledges what it has and keeps, and makes up nothing. -/
structure Receiver.Honours (receiver : Receiver State Message Arrival Own Answer)
    (terms : Terms State Message Own Answer Fact) : Prop where
  sound_take : ∀ {message arrival state after answer}, terms.Sound state →
    receiver.take message arrival state = some (after, answer) → terms.Sound after
  sound_own : ∀ {label state after}, terms.Sound state → terms.Allowed state label →
    receiver.own label state = some after → terms.Sound after
  answered : ∀ {message arrival state after answer}, terms.Sound state → terms.Fits message →
    receiver.take message arrival state = some (after, some answer) → terms.Effective answer →
      terms.Has message after
  kept_take : ∀ {message arrival state after answer other}, terms.Sound state →
    receiver.take message arrival state = some (after, answer) → terms.Has other state →
      terms.Has other after
  kept_own : ∀ {label state after other}, terms.Sound state → terms.Allowed state label →
    receiver.own label state = some after → terms.Has other state → terms.Has other after
  new_take : ∀ {message arrival state after answer fact}, terms.Sound state →
    terms.Fits message → receiver.take message arrival state = some (after, answer) →
      terms.Holds after fact → terms.Holds state fact ∨ terms.From message fact
  new_own : ∀ {label state after fact}, terms.Sound state → terms.Allowed state label →
    receiver.own label state = some after → terms.Holds after fact → terms.Holds state fact

namespace Terms

variable (terms : Terms State Message Own Answer Fact)

/-- The steps of a delivery under the terms. -/
def Within (delivery : Delivery State Message Answer) :
    Delivery.Label Message Arrival Own → Prop
  | .own label => terms.Allowed delivery.receiver label
  | .send _ | .arrive _ _ => True

/-- Every acknowledged message is there. -/
def Acknowledged (delivery : Delivery State Message Answer) : Prop :=
  ∀ dispatch ∈ delivery.dispatches, ∀ answer ∈ dispatch.answers, terms.Effective answer →
    terms.Has dispatch.message delivery.receiver

/-- Every fact comes from a message that was sent. -/
def Traced (delivery : Delivery State Message Answer) : Prop :=
  ∀ fact, terms.Holds delivery.receiver fact → ∃ dispatch ∈ delivery.dispatches,
    terms.From dispatch.message fact

/-- As long as all messages fit, nothing is acknowledged in vain or made up. -/
structure Fulfilled (delivery : Delivery State Message Answer) : Prop where
  sound : terms.Sound delivery.receiver
  acknowledged : (∀ dispatch ∈ delivery.dispatches, terms.Fits dispatch.message) →
    terms.Acknowledged delivery
  traced : (∀ dispatch ∈ delivery.dispatches, terms.Fits dispatch.message) →
    terms.Traced delivery

variable {terms} {receiver : Receiver State Message Arrival Own Answer}
variable {delivery after : Delivery State Message Answer}
variable {label : Delivery.Label Message Arrival Own}

/-- A receiver that honours the terms fulfils them step by step. -/
theorem Fulfilled.step (fulfilled : terms.Fulfilled delivery) (honours : receiver.Honours terms)
    (stepped : receiver.Stepped delivery label after) (within : terms.Within delivery label) :
    terms.Fulfilled after := by
  have sound := fulfilled.sound
  have earlier : (∀ dispatch ∈ after.dispatches, terms.Fits dispatch.message) →
      ∀ dispatch ∈ delivery.dispatches, terms.Fits dispatch.message := by
    intro fits dispatch listed
    obtain ⟨index, found⟩ := List.getElem?_of_mem listed
    obtain ⟨later, laterFound, same, _⟩ := stepped.grows index dispatch found
    exact same ▸ fits later (List.mem_of_getElem? laterFound)
  constructor
  case sound =>
    cases stepped with
    | send => exact sound
    | arrive index arrival dispatch later answer sent took => exact honours.sound_take sound took
    | own own later went => exact honours.sound_own sound within went
  case acknowledged =>
    intro fits dispatch listed answer given effective
    have kept : ∀ message, terms.Has message delivery.receiver →
        terms.Has message after.receiver := by
      intro message has
      cases stepped with
      | send => exact has
      | arrive index arrival dispatch later answer sent took =>
          exact honours.kept_take sound took has
      | own own later went => exact honours.kept_own sound within went has
    rcases stepped.mem_dispatches listed with ⟨before, sent, same, answers⟩ | ⟨_, unanswered⟩
    · rcases answers answer given with known | ⟨index, arrival, _, took⟩
      · rw [← same]
        exact kept _ (fulfilled.acknowledged (earlier fits) before sent answer known effective)
      · exact honours.answered sound (fits dispatch listed) took effective
    · rw [unanswered] at given
      cases given
  case traced =>
    intro fits fact holds
    have kept : ∀ fact, (∃ dispatch ∈ delivery.dispatches, terms.From dispatch.message fact) →
        ∃ dispatch ∈ after.dispatches, terms.From dispatch.message fact := by
      rintro fact ⟨dispatch, listed, comes⟩
      obtain ⟨index, found⟩ := List.getElem?_of_mem listed
      obtain ⟨later, laterFound, same, _⟩ := stepped.grows index dispatch found
      exact ⟨later, List.mem_of_getElem? laterFound, same ▸ comes⟩
    have traced := fulfilled.traced (earlier fits)
    apply kept
    cases stepped with
    | send => exact traced fact holds
    | own own later went => exact traced fact (honours.new_own sound within went holds)
    | arrive index arrival dispatch later answer sent took =>
        have listed := List.mem_of_getElem? sent
        rcases honours.new_take sound (earlier fits dispatch listed) took holds with
          before | comes
        · exact traced fact before
        · exact ⟨dispatch, listed, comes⟩

end Terms

end Pactix.Foundation
