import Pactix.Relay.System

/-!
# Runs of a relay

The outbox takes no notice of the delivery: its part of a run is a run of the outbox.  What was
sent was built from a stored row, and what was published has been answered.
-/

namespace Pactix.Relay

open Foundation
open Outbox (OutboxMessageRecord PublishOutcome)
open Worker (Deployment)

variable {W J Message Inbox Arrival Own Answer Fact : Type} [DecidableEq W]
variable {carrier : Carrier J Message Inbox Arrival Own Answer} {deployment : Deployment W}
variable {state after : State W J Message Inbox Answer} {label : Label W J Arrival Own Answer}

/-- An empty outbox, and nothing sent. -/
def State.initial (clock : Int) (inbox : Inbox) : State W J Message Inbox Answer where
  outbox := .initial clock
  delivery := { receiver := inbox }

/-- What the receiver does by itself is allowed. -/
def Within (terms : Terms Inbox Message Own Answer Fact)
    (state : State W J Message Inbox Answer) : Label W J Arrival Own Answer → Prop
  | .own label => terms.Allowed state.delivery.receiver label
  | .outbox _ | .send _ | .conclude _ _ _ | .arrive _ _ => True

instance (terms : Terms Inbox Message Own Answer Fact)
    [∀ inbox label, Decidable (terms.Allowed inbox label)]
    (state : State W J Message Inbox Answer) (label : Label W J Arrival Own Answer) :
    Decidable (Within terms state label) :=
  match label with
  | .own label => inferInstanceAs (Decidable (terms.Allowed _ label))
  | .outbox _ | .send _ | .conclude _ _ _ | .arrive _ _ => isTrue trivial

/-! ## Projections -/

/-- What the outbox goes through is a run of the outbox. -/
theorem outbox_path {permitted : State W J Message Inbox Answer →
      Label W J Arrival Own Answer → Prop} {start : State W J Message Inbox Answer}
    (path : (machine carrier deployment).Path permitted start state) :
    (Worker.machine (Outbox.service deployment)).Path Machine.Free start.outbox
      state.outbox := by
  apply Machine.path_project State.outbox _ path
  intro before label after _ stepped
  cases stepped_of_step stepped with
  | outbox outboxLabel outbox quiet went => exact Machine.path_single outboxLabel trivial went
  | conclude worker record context ending reply outboxLabel outbox asks ended labelled went =>
      exact Machine.path_single outboxLabel trivial went
  | send | arrive | own => exact .refl

/-- What happens to the delivery is a step of it. -/
theorem Stepped.delivered {terms : Terms Inbox Message Own Answer Fact}
    (stepped : Stepped carrier deployment state label after) (within : Within terms state label) :
    after.delivery = state.delivery ∨ ∃ deliveryLabel,
      carrier.Stepped state.delivery deliveryLabel after.delivery ∧
        terms.Within state.delivery deliveryLabel := by
  cases stepped with
  | outbox | conclude => exact .inl rfl
  | send worker record message asks idle built => exact .inr ⟨_, .send message, trivial⟩
  | arrive index arrival delivery went =>
      exact .inr ⟨_, Receiver.stepped_of_step went, trivial⟩
  | own label delivery went => exact .inr ⟨_, Receiver.stepped_of_step went, within⟩

/-- Where the receiver honours the terms they are fulfilled in every run. -/
theorem fulfilled_of_path {terms : Terms Inbox Message Own Answer Fact}
    (honours : carrier.Honours terms) {start : State W J Message Inbox Answer}
    (path : (machine carrier deployment).Path (Within terms) start state)
    (initially : terms.Fulfilled start.delivery) : terms.Fulfilled state.delivery := by
  apply Machine.path_invariant (fun state => terms.Fulfilled state.delivery) _ path initially
  intro before label after within stepped fulfilled
  rcases (stepped_of_step stepped).delivered within with same | ⟨_, went, allowed⟩
  · rw [same]
    exact fulfilled
  · exact fulfilled.step honours went allowed

/-! ## What is sent and what is published -/

/-- A worker waits for the message of the record that it publishes; messages are those of
stored rows; a record is published when its message was answered. -/
structure Sound (carrier : Carrier J Message Inbox Arrival Own Answer)
    (state : State W J Message Inbox Answer) : Prop where
  waiting : ∀ worker index, state.waiting worker = some index → ∃ record dispatch,
    publishing state.outbox worker = some record ∧
      state.delivery.dispatches[index]? = some dispatch ∧
        carrier.build record = .ok dispatch.message
  sent : ∀ dispatch ∈ state.delivery.dispatches, ∃ row ∈ state.outbox.table,
    carrier.build row = .ok dispatch.message
  published : ∀ call ∈ state.outbox.consulted, call.reply.kind = .published →
    ∃ dispatch ∈ state.delivery.dispatches, carrier.build call.query = .ok dispatch.message ∧
      ∃ answer ∈ dispatch.answers, (carrier.outcome answer).kind = .published

omit [DecidableEq W] in
theorem asked_of_publishing {outbox : OutboxState W J} {worker : W}
    {record : OutboxMessageRecord J} (asks : publishing outbox worker = some record) :
    outbox.request worker = some (.ask record) := by
  unfold publishing at asks
  split at asks
  next other found => rw [found, Option.some.inj asks]
  next => cases asks

omit [DecidableEq W] in
/-- A record that is published is a copy of a stored row. -/
theorem built_stored (carrier : Carrier J Message Inbox Arrival Own Answer)
    {queue : Worker.QueueState W (Outbox.Content J)}
    (simulates : Worker.Simulates (Outbox.service deployment) state.outbox queue) {worker : W}
    {record : OutboxMessageRecord J} (asks : publishing state.outbox worker = some record) :
    ∃ row ∈ state.outbox.table, carrier.build row = carrier.build record := by
  obtain ⟨row, stored, sameCard⟩ :=
    simulates.held_stored (simulates.asked (asked_of_publishing asks)).1
  exact ⟨row, stored, carrier.build_congr (congrArg Queue.Card.body sameCard)⟩

omit [DecidableEq W] in
/-- A call ends in success only by an answer to its own dispatch. -/
theorem concluded_published {worker : W} {record : OutboxMessageRecord J}
    {ending : Ending Answer} {outcome : PublishOutcome}
    (ended : concluded carrier state worker record ending = some (.ok outcome))
    (published : outcome.kind = .published) :
    ∃ index dispatch, state.waiting worker = some index ∧
      state.delivery.dispatches[index]? = some dispatch ∧
      ∃ answer ∈ dispatch.answers, carrier.outcome answer = outcome := by
  unfold concluded at ended
  split at ended
  next => cases ended
  next message built =>
    split at ended
    next => cases ended
    next dispatch found =>
      obtain ⟨index, waits, dispatched⟩ := Option.bind_eq_some_iff.mp found
      refine ⟨index, dispatch, waits, dispatched, ?_⟩
      obtain ⟨result, given, replied⟩ := Option.map_eq_some_iff.mp ended
      simp only [Carrier.publish, built, bind, Except.bind] at replied
      cases ending with
      | answered position =>
          obtain ⟨answer, listed, rfl⟩ := Option.map_eq_some_iff.mp given
          exact ⟨answer, List.mem_of_getElem? listed, Except.ok.inj replied⟩
      | interposed answer =>
          simp only [clientResult] at given
          split at given
          next => cases given
          next failure =>
            obtain rfl := Option.some.inj given
            obtain rfl := Except.ok.inj replied
            exact absurd published failure
      | raised error =>
          obtain rfl := Option.some.inj given
          obtain rfl := Except.ok.inj replied
          exact absurd published (by simp [PublishOutcome.retryable])

omit [DecidableEq W] in
/-- What was there of the delivery still is. -/
theorem Sound.grown {delivery : Delivery Inbox Message Answer}
    (grows : state.delivery.Grows delivery) {record : OutboxMessageRecord J}
    (found : ∃ dispatch ∈ state.delivery.dispatches,
      carrier.build record = .ok dispatch.message ∧
        ∃ answer ∈ dispatch.answers, (carrier.outcome answer).kind = .published) :
    ∃ dispatch ∈ delivery.dispatches, carrier.build record = .ok dispatch.message ∧
      ∃ answer ∈ dispatch.answers, (carrier.outcome answer).kind = .published := by
  obtain ⟨dispatch, listed, holds, answer, given, success⟩ := found
  obtain ⟨index, here⟩ := List.getElem?_of_mem listed
  obtain ⟨later, there, same, answers⟩ := grows index dispatch here
  exact ⟨later, List.mem_of_getElem? there, same ▸ holds, answer, answers answer given, success⟩

/-- Who waits after a step of the outbox has waited before. -/
theorem State.waiting_follow {outboxLabel : OutboxLabel W J} {outbox : OutboxState W J}
    {worker : W} {index : Nat}
    (waits : (state.follow outboxLabel outbox).waiting worker = some index) :
    state.waiting worker = some index ∧ outboxLabel.actor ≠ some worker := by
  cases actor : outboxLabel.actor with
  | none => exact ⟨by simpa [State.follow, actor] using waits, by simp⟩
  | some other =>
      by_cases own : worker = other
      · simp [State.follow, actor, own] at waits
      · refine ⟨by simpa [State.follow, actor, own] using waits, ?_⟩
        exact fun same => own (Option.some.inj same).symm

/-- A step of the outbox keeps a relay sound when every success that it reports has been
answered. -/
theorem Sound.outbox {clock : Int} {outboxLabel : OutboxLabel W J} {outbox : OutboxState W J}
    (sound : Sound carrier state)
    (path : (Worker.machine (Outbox.service deployment)).Path Machine.Free (.initial clock)
      state.outbox)
    (stepped : Worker.step (Outbox.service deployment) state.outbox outboxLabel = some outbox)
    (backed : ∀ worker context record outcome, outboxLabel = .act worker context →
      publishing state.outbox worker = some record → context.reply record = .ok outcome →
      outcome.kind = .published → ∃ dispatch ∈ state.delivery.dispatches,
        carrier.build record = .ok dispatch.message ∧
          ∃ answer ∈ dispatch.answers, (carrier.outcome answer).kind = .published) :
    Sound carrier (state.follow outboxLabel outbox) where
  waiting worker index waits := by
    obtain ⟨before, other⟩ := State.waiting_follow waits
    obtain ⟨record, dispatch, asks, found, built⟩ := sound.waiting worker index before
    refine ⟨record, dispatch, ?_, found, built⟩
    unfold publishing at asks ⊢
    rw [State.follow, Worker.request_step stepped other]
    exact asks
  sent dispatch listed := by
    obtain ⟨row, stored, built⟩ := sound.sent dispatch listed
    obtain ⟨queue, simulates, _⟩ := Worker.evidenced_of_path path
    obtain ⟨kept, keptStored, sameCard, _⟩ :=
      simulates.rows_kept (Machine.path_single outboxLabel trivial stepped) stored
    refine ⟨kept, keptStored, ?_⟩
    rw [← built]
    exact carrier.build_congr (congrArg Queue.Card.body sameCard)
  published call consulted success := by
    rcases Worker.consulted_step stepped with same |
      ⟨worker, context, query, reply, labelled, asks, replied, added⟩
    · rw [State.follow, same] at consulted
      exact sound.published call consulted success
    · rw [State.follow, added, List.mem_cons] at consulted
      rcases consulted with rfl | before
      · refine backed worker context query reply labelled ?_ replied success
        rw [publishing, asks]
      · exact sound.published call before success

/-- Every step of a relay keeps it sound. -/
theorem Sound.step {clock : Int} (sound : Sound carrier state)
    (path : (Worker.machine (Outbox.service deployment)).Path Machine.Free (.initial clock)
      state.outbox)
    (stepped : Relay.step carrier deployment state label = some after) :
    Sound carrier after := by
  have delivered : ∀ {delivery deliveryLabel}, carrier.Stepped state.delivery deliveryLabel
      delivery → (∀ message, deliveryLabel ≠ .send message) →
      Sound carrier { state with delivery } := by
    intro delivery deliveryLabel went silent
    constructor
    case waiting =>
      intro worker index waits
      obtain ⟨record, dispatch, asks, found, built⟩ := sound.waiting worker index waits
      obtain ⟨later, laterFound, same, _⟩ := went.grows index dispatch found
      exact ⟨record, later, asks, laterFound, same ▸ built⟩
    case sent =>
      intro dispatch listed
      rcases went.mem_dispatches listed with ⟨earlier, before, same, _⟩ | ⟨sends, _⟩
      · exact same ▸ sound.sent earlier before
      · exact absurd sends (silent _)
    case published =>
      intro call consulted success
      exact Sound.grown went.grows (sound.published call consulted success)
  cases stepped_of_step stepped with
  | outbox outboxLabel outbox quiet went =>
      refine sound.outbox path went ?_
      rintro worker context record outcome rfl asks
      simp [publishes, asks] at quiet
  | conclude worker record context ending reply outboxLabel outbox asks ended labelled went =>
      subst labelled
      refine sound.outbox path went ?_
      rintro _ _ other outcome ⟨⟩ otherAsks rfl success
      obtain ⟨index, dispatch, waits, found, answer, given, classified⟩ :=
        concluded_published ended success
      obtain ⟨same, own, isSame, ownFound, built⟩ := sound.waiting worker index waits
      obtain rfl := Option.some.inj (found.symm.trans ownFound)
      obtain rfl := Option.some.inj (otherAsks.symm.trans isSame)
      exact ⟨dispatch, List.mem_of_getElem? found, built, answer, given, classified ▸ success⟩
  | arrive index arrival delivery went =>
      exact delivered (Receiver.stepped_of_step went) (by simp)
  | own own delivery went => exact delivered (Receiver.stepped_of_step went) (by simp)
  | send worker record message asks idle built =>
      have went : carrier.Stepped state.delivery (.send message) (state.delivery.send message) :=
        .send message
      constructor
      case waiting =>
        intro other index waits
        by_cases own : other = worker
        · subst own
          simp only [Function.update_self, Option.some.injEq] at waits
          subst waits
          exact ⟨record, { message }, asks, List.getElem?_concat_length, built⟩
        · simp only [Function.update_of_ne own] at waits
          obtain ⟨record, dispatch, asks, found, built⟩ := sound.waiting other index waits
          obtain ⟨later, laterFound, same, _⟩ := went.grows index dispatch found
          exact ⟨record, later, asks, laterFound, same ▸ built⟩
      case sent =>
        intro dispatch listed
        rcases List.mem_append.mp listed with before | new
        · exact sound.sent dispatch before
        · obtain ⟨queue, simulates, _⟩ := Worker.evidenced_of_path path
          obtain ⟨row, stored, same⟩ := built_stored carrier simulates asks
          rw [List.mem_singleton.mp new]
          exact ⟨row, stored, same.trans built⟩
      case published =>
        intro call consulted success
        exact Sound.grown went.grows (sound.published call consulted success)

/-- Every run of a relay is sound. -/
theorem sound_of_path {clock : Int} {inbox : Inbox}
    {permitted : State W J Message Inbox Answer → Label W J Arrival Own Answer → Prop}
    (path : (machine carrier deployment).Path permitted (.initial clock inbox) state) :
    Sound carrier state := by
  induction path with
  | refl => exact ⟨by simp [State.initial], by simp [State.initial],
      by simp [State.initial, Worker.State.initial]⟩
  | tail earlier last ih =>
      obtain ⟨label, _, stepped⟩ := last
      exact ih.step (outbox_path earlier) stepped

end Pactix.Relay
