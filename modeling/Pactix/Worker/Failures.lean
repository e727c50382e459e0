import Pactix.Queue.Failures
import Pactix.Worker.Runs

/-!
# Replies behind attempts

The verdicts of the queue are those of the callbacks, one for one; so every attempt of a row
was a failing reply about it.
-/

namespace Pactix.Worker

open Foundation Queue

variable {Worker Row Ask Summary Arrival Receipt Body : Type} {Reply : Ask → Type}

/-- The verdict that a callback came to. -/
def Service.verdict (service : Service Worker Row Ask Summary Arrival Receipt Body Reply)
    (call : Consultation Worker Ask Reply) :
    Option (Entry UUID (String × String) Int Body × Verdict) :=
  (service.judge call.query call.reply).map fun verdict =>
    (service.entry (service.subject call.query), verdict)

/-- What a step adds to the replies. -/
def State.replies (state : State Worker Row Ask Summary Arrival Receipt Reply) :
    Label Worker Row Ask Arrival Reply → List (Consultation Worker Ask Reply)
  | .act worker context =>
      match state.request worker with
      | some (.ask query) =>
          match context.reply query with
          | .ok reply => [⟨worker, query, reply⟩]
          | .error _ => []
      | _ => []
  | .receive _ | .spawn _ | .crash _ => []

variable {service : Service Worker Row Ask Summary Arrival Receipt Body Reply}
variable [DecidableEq Worker]
variable {state after : State Worker Row Ask Summary Arrival Receipt Reply}
  {queue : QueueState Worker Body} {label : Label Worker Row Ask Arrival Reply}

theorem consulted_eq (stepped : step service state label = some after) :
    after.consulted = state.replies label ++ state.consulted := by
  cases stepped_of_step stepped with
  | receive | reject | spawn | crash => rfl
  | act worker context request resume running =>
      simp only [State.replies, request_of_running running]
      cases request with
      | utcnow | reclaimAndClaim | markDone | handleRetryableFailure | markFailed => rfl
      | ask query =>
          simp only [act, Store.perform]
          cases context.reply query <;> rfl

/-- The queue's step adds the verdicts of the replies that the machine's step adds. -/
theorem Simulates.verdicts_step (simulates : Simulates service state queue)
    (told : queue.verdicts = state.consulted.filterMap service.verdict)
    (stepped : step service state label = some after) :
    ∃ queueAfter, Simulates service after queueAfter ∧
      queueAfter.verdicts = after.consulted.filterMap service.verdict ∧
      (queueAfter = queue ∨ ∃ action, Step queue action queueAfter) := by
  rw [consulted_eq stepped, List.filterMap_append]
  rcases simulates.mirrored stepped with
    ⟨⟨arrival, rfl⟩, silent⟩ | ⟨action, queueAfter, answered, mirrors, simulated⟩
  · exact ⟨queue, silent, told, .inl rfl⟩
  · refine ⟨queueAfter, simulated, ?_, .inr ⟨action, answered⟩⟩
    cases mirrors with
    | append | spawn | crash =>
        cases answered
        exact told
    | read worker context requests | claim worker context now lease chosen batch requests =>
        cases answered
        simp only [State.replies, requests]
        exact told
    | record worker context row rest verdict requests held decided =>
        cases answered
        simp only [State.replies, requests]
        cases verdict <;> exact told
    | consult worker context query requests unsettled =>
        cases answered
        simp only [State.replies, requests]
        cases replied : context.reply query with
        | error => exact told
        | ok reply =>
            simp only [List.filterMap_cons, Service.verdict, unsettled reply replied]
            exact told
    | decide worker context query reply verdict requests undecided replied judged =>
        cases answered
        simp only [State.replies, requests, replied, List.filterMap_cons, Service.verdict, judged]
        exact congrArg _ told

/-- In every run the attempts of the rows are backed by failing replies. -/
theorem backed_of_path {clock : Int}
    (path : (machine service).Path Machine.Free (.initial clock) state) :
    ∃ queue, Simulates service state queue ∧ Backed queue ∧
      queue.verdicts = state.consulted.filterMap service.verdict := by
  induction path with
  | refl => exact ⟨_, .initial clock, .initial clock, rfl⟩
  | tail _ last ih =>
      obtain ⟨label, _, stepped⟩ := last
      obtain ⟨queue, simulates, backed, told⟩ := ih
      obtain ⟨queueAfter, simulated, toldAfter, rfl | ⟨action, answered⟩⟩ :=
        simulates.verdicts_step told stepped
      · exact ⟨_, simulated, backed, toldAfter⟩
      · exact ⟨queueAfter, simulated, backed.step simulates.sound answered, toldAfter⟩

/-- The callback failed the row with the id. -/
def Service.failed (service : Service Worker Row Ask Summary Arrival Receipt Body Reply)
    (id : UUID) (call : Consultation Worker Ask Reply) : Bool :=
  decide (service.store.id (service.subject call.query) = id) &&
    (service.judge call.query call.reply).any fun verdict => verdict.failure.isSome

omit [DecidableEq Worker] in
theorem failed_eq_true {id : UUID} {call : Consultation Worker Ask Reply} :
    service.failed id call = true ↔ service.store.id (service.subject call.query) = id ∧
      ∃ verdict, service.judge call.query call.reply = some verdict ∧
        verdict.failure.isSome = true := by
  simp [Service.failed, Option.any_eq_true]

omit [DecidableEq Worker] in
theorem countP_failed (id : UUID) (calls : List (Consultation Worker Ask Reply)) :
    (calls.filterMap service.verdict).countP (Fails id) = calls.countP (service.failed id) := by
  rw [List.countP_filterMap]
  congr 1
  funext call
  simp only [Service.verdict, Service.failed]
  cases service.judge call.query call.reply <;> simp [Fails, service.refines.id_entry]

/-- A row has no more attempts than failing replies about it, and its error is the message
of one of them. -/
theorem attempts_of_path {clock : Int}
    (path : (machine service).Path Machine.Free (.initial clock) state) {row : Row}
    (stored : row ∈ state.table) :
    (service.entry row).attempts ≤ state.consulted.countP (service.failed (service.store.id row)) ∧
      ∀ message, (service.entry row).error = some message → ∃ call ∈ state.consulted,
        (service.entry (service.subject call.query)).card = (service.entry row).card ∧
          (service.judge call.query call.reply).bind Verdict.failure = some message := by
  obtain ⟨queue, simulates, backed, told⟩ := backed_of_path path
  have entry := simulates.mem_entries stored
  constructor
  · have counted := backed.attempts _ entry ∅ (by simp)
    rw [told, countP_failed, service.refines.id_entry] at counted
    simpa using counted
  · intro message failed
    obtain ⟨given, membership, card, failure⟩ := backed.error _ entry message failed
    rw [told, List.mem_filterMap] at membership
    obtain ⟨call, consulted, reached⟩ := membership
    obtain ⟨verdict, judged, rfl⟩ := Option.map_eq_some_iff.mp reached
    exact ⟨call, consulted, card, by rw [judged]; exact failure⟩

end Pactix.Worker
