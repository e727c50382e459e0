import Mathlib.Data.Fintype.Defs
import Pactix.Queue.Retries
import Pactix.Worker.Refinement

/-!
# The retries of one row

A row whose deliveries are all answered retryable, and recorded before the lease of the
claimed record expires, keeps to the retry schedule, whatever else the workers do.
-/

namespace Pactix.Worker

open Foundation Queue

variable {Worker Row Ask Summary Arrival Receipt Body : Type} {Reply : Ask → Type}
variable (service : Service Worker Row Ask Summary Arrival Receipt Body Reply)

namespace Service

/-- The verdict of a callback, if it returns one. -/
def answer (context : Context Row Ask Reply) (query : Ask) : Option Verdict :=
  match context.reply query with
  | .error _ => none
  | .ok reply => service.judge query reply

/-- When a row that fails after so many attempts is due again, as the worker plans it. -/
def schedule (worker : Worker) (attempts time : Int) : Int :=
  (nextRetryAt service.store.floatMax (service.store.retryStore worker (.utc time)).retryPolicy
    attempts (.utc time)).instant

end Service

section Discipline

variable (delivers : Ask → Bool) (id : UUID)
variable (state : State Worker Row Ask Summary Arrival Receipt Reply)

/-- What is noted about the row: the deliveries that are answered and the recordings. -/
def noted : Label Worker Row Ask Arrival Reply → List (Event Worker Int)
  | .act worker context =>
      match state.request worker with
      | some (.ask query) =>
          if delivers query ∧ service.store.id (service.subject query) = id then
            (service.answer context query).toList.map (Event.delivered context.time)
          else []
      | some request =>
          if request.recordsFor = some id then [.recorded worker context.time] else []
      | none => []
  | .receive _ | .spawn _ | .crash _ => []

/-- A delivery is answered retryable while the lease of the record is running; the other
callbacks settle nothing. -/
def Answered (context : Context Row Ask Reply) (query : Ask) : Prop :=
  if delivers query then
    (service.answer context query).any Verdict.isRetryable = true ∧
      ∀ lease ∈ service.store.leaseUntil (service.subject query), context.time ≤ lease.instant
  else service.answer context query = none

/-- No outcome of the row is late yet. -/
def Pending (time : Int) : Prop :=
  ∀ worker, state.recordsFor worker = some id →
    ∀ row ∈ (state.process worker).held, service.store.id row = id →
      ∀ lease ∈ service.store.leaseUntil row, time ≤ lease.instant

/-- Every delivery of the row is answered retryable and recorded, under one clock and before
the `lease_until` of the claimed record.  A worker that has the answer is not lost. -/
def Attends : Label Worker Row Ask Arrival Reply → Prop
  | .act worker context =>
      state.clock ≤ context.time ∧ Pending service id state context.time ∧
        ∀ query ∈ (state.request worker).bind Call.asked,
          service.store.id (service.subject query) = id →
            Answered service delivers context query
  | .spawn worker | .crash worker => state.recordsFor worker ≠ some id
  | .receive _ => True

instance (context : Context Row Ask Reply) (query : Ask) :
    Decidable (Answered service delivers context query) :=
  inferInstanceAs (Decidable (if delivers query then
    (service.answer context query).any Verdict.isRetryable = true ∧
      ∀ lease ∈ service.store.leaseUntil (service.subject query), context.time ≤ lease.instant
  else service.answer context query = none))

instance [Fintype Worker] (time : Int) : Decidable (Pending service id state time) :=
  inferInstanceAs (Decidable (∀ worker, state.recordsFor worker = some id →
    ∀ row ∈ (state.process worker).held, service.store.id row = id →
      ∀ lease ∈ service.store.leaseUntil row, time ≤ lease.instant))

instance [Fintype Worker] (label : Label Worker Row Ask Arrival Reply) :
    Decidable (Attends service delivers id state label) :=
  match label with
  | .act worker context => inferInstanceAs (Decidable (
      state.clock ≤ context.time ∧ Pending service id state context.time ∧
        ∀ query ∈ (state.request worker).bind Call.asked,
          service.store.id (service.subject query) = id →
            Answered service delivers context query))
  | .spawn worker | .crash worker =>
      inferInstanceAs (Decidable (state.recordsFor worker ≠ some id))
  | .receive _ => isTrue trivial

end Discipline

section Attendance

variable {service} {delivers : Ask → Bool} {id : UUID}
variable {state : State Worker Row Ask Summary Arrival Receipt Reply}
variable {queue : QueueState Worker Body} {label : Label Worker Row Ask Arrival Reply}
variable {action own : Action Worker UUID (String × String) Int Body}
variable {worker : Worker} {context : Context Row Ask Reply}

/-- A verdict in the queue of the row is about the row, and its recording is to come. -/
theorem Simulates.settled_only (simulates : Simulates service state queue) {entry verdict}
    (decided : ((queue.only id).session worker).decided = some (entry, verdict)) :
    ∃ row rest, (state.process worker).held = row :: rest ∧ service.entry row = entry ∧
      service.store.id row = id ∧ state.recordsFor worker = some id := by
  obtain ⟨stands, named⟩ := Option.filter_eq_some_iff.mp decided
  obtain ⟨row, rest, held, rfl, requests⟩ := simulates.settled stands
  have about : service.store.id row = id := by
    rw [← service.refines.id_entry]
    exact of_decide_eq_true named
  refine ⟨row, rest, held, rfl, about, ?_⟩
  simp [State.recordsFor, requests, about]

/-- Where nothing is to be recorded for the row, no verdict waits in its queue. -/
theorem Simulates.idle_only (simulates : Simulates service state queue)
    (idle : state.recordsFor worker ≠ some id) :
    ((queue.only id).session worker).decided = none := by
  cases decided : ((queue.only id).session worker).decided with
  | none => rfl
  | some decision =>
      obtain ⟨_, _, _, _, _, records⟩ := simulates.settled_only decided
      exact absurd records idle

/-- The lease of a held record bounds the time at which its outcome is pending. -/
theorem Simulates.pending_only (simulates : Simulates service state queue) {time : Int}
    (pending : Pending service id state time) {entry verdict}
    (decided : ((queue.only id).session worker).decided = some (entry, verdict)) :
    ∃ lease, entry.lease = some lease ∧ time ≤ lease := by
  obtain ⟨row, rest, held, rfl, about, records⟩ := simulates.settled_only decided
  have member : row ∈ (state.process worker).held := by rw [held]; exact List.mem_cons_self
  have lent := ((simulates.sound.sessions worker).held_lent _ (simulates.mem_held member)).2
  rw [service.refines.lease_entry, Option.isSome_map] at lent
  obtain ⟨lease, leased⟩ := Option.isSome_iff_exists.mp lent
  refine ⟨lease.instant, ?_, pending worker records row member about lease leased⟩
  rw [service.refines.lease_entry, leased, Option.map_some]

/-- Callbacks are asked about the head of the batch. -/
theorem Simulates.head_of_asked (simulates : Simulates service state queue) {query : Ask}
    (requests : state.request worker = some (.ask query)) :
    (state.process worker).held.head? = some (service.subject query) := by
  unfold State.request at requests
  split at requests
  next request resume running =>
    obtain rfl := Option.some.inj requests
    obtain ⟨_, _, _, _, _, _, head, _⟩ := (simulates.follows worker).program _ _ running
    exact head
  next => cases requests

/-- A worker's call keeps the verdicts of the queue from being late. -/
theorem Simulates.attended_act (simulates : Simulates service state queue)
    (attends : Attends service delivers id state (.act worker context))
    (timed : own.time = some context.time) (start : ∀ other, own ≠ .start other)
    (claim : ∀ other time now lease fifo chosen batch,
      own = .claim other time now lease fifo chosen batch →
        ((queue.only id).session other).held = [])
    (decide : ∀ other time entry verdict, own = .decide other time entry verdict →
      ((queue.only id).session other).decided = none ∧
        (∃ message, verdict = .retryable message) ∧
          ∃ lease, entry.lease = some lease ∧ time ≤ lease)
    (record : ∀ other time due, own = .record other time due → ∀ entry verdict,
      ((queue.only id).session other).decided = some (entry, verdict) →
        due = service.schedule other entry.attempts time) :
    Attended service.schedule (queue.only id) own where
  clocked time shown := by
    rw [timed, Option.some.injEq] at shown
    rw [← shown]
    exact simulates.clock.trans_le attends.1
  waits time shown other entry verdict decided := by
    rw [timed, Option.some.injEq] at shown
    rw [← shown]
    exact simulates.pending_only attends.2.1 decided
  start other same := absurd same (start other)
  claim := claim
  decide := decide
  record := record

/-- A step that is noted for what it does in the queue of the row, and keeps to its
discipline. -/
def Heeds (service : Service Worker Row Ask Summary Arrival Receipt Body Reply)
    (delivers : Ask → Bool) (id : UUID)
    (state : State Worker Row Ask Summary Arrival Receipt Reply) (queue : QueueState Worker Body)
    (label : Label Worker Row Ask Arrival Reply) :
    Option (Action Worker UUID (String × String) Int Body) → Prop
  | some own => Attended service.schedule (queue.only id) own ∧
      noted service delivers id state label = own.events
  | none => noted service delivers id state label = []

theorem noted_ask {query : Ask} (requests : state.request worker = some (.ask query)) :
    noted service delivers id state (.act worker context) =
      if delivers query ∧ service.store.id (service.subject query) = id then
        (service.answer context query).toList.map (Event.delivered context.time)
      else [] := by
  simp only [noted, requests]

theorem noted_recording {row : Row} {verdict : Verdict}
    (requests : state.request worker = some ((service.routine worker).recording row verdict)) :
    noted service delivers id state (.act worker context) =
      if service.store.id row = id then [.recorded worker context.time] else [] := by
  cases verdict <;>
    simp [noted, requests, Routine.recording, Call.recordsFor, service.routine_id]

/-- A callback that settles nothing was no delivery. -/
theorem heeds_consult (simulates : Simulates service state queue)
    (attends : Attends service delivers id state (.act worker context))
    (unnoted : noted service delivers id state (.act worker context) = []) :
    Heeds service delivers id state queue (.act worker context)
      (some (.consult worker context.time)) := by
  refine ⟨?_, unnoted⟩
  exact simulates.attended_act attends rfl (by simp) (by simp) (by simp) (by simp)

/-- A callback that comes to a verdict about the row is a delivery. -/
theorem heeds_decide (simulates : Simulates service state queue)
    (attends : Attends service delivers id state (.act worker context)) {query : Ask}
    {verdict : Verdict} (requests : state.request worker = some (.ask query))
    (undecided : (queue.session worker).decided = none)
    (answered : service.answer context query = some verdict)
    (about : service.store.id (service.subject query) = id)
    (lent : (service.entry (service.subject query)).lease.isSome = true) :
    Heeds service delivers id state queue (.act worker context)
      (some (.decide worker context.time (service.entry (service.subject query)) verdict)) := by
  have reply := attends.2.2 query (by simp [requests, Call.asked]) about
  rw [Answered, answered] at reply
  cases delivered : delivers query with
  | false => simp [delivered] at reply
  | true =>
      rw [delivered, if_pos rfl, Option.any_some] at reply
      constructor
      · apply simulates.attended_act attends rfl (by simp) (by simp) ?_ (by simp)
        intro other time entry given same
        cases same
        refine ⟨by simp [Queue.State.only, Session.only, undecided],
          Verdict.isRetryable_eq_true.mp reply.1, ?_⟩
        rw [service.refines.lease_entry, Option.isSome_map] at lent
        obtain ⟨lease, leased⟩ := Option.isSome_iff_exists.mp lent
        refine ⟨lease.instant, ?_, reply.2 lease leased⟩
        rw [service.refines.lease_entry, leased, Option.map_some]
      · rw [noted_ask requests, if_pos ⟨delivered, about⟩, answered]
        rfl

/-- Every step that the discipline allows is heeded. -/
theorem Mirrors.heeds (simulates : Simulates service state queue)
    (attends : Attends service delivers id state label)
    (mirrors : Mirrors service state queue label action) :
    Heeds service delivers id state queue label (action.only id queue) := by
  have silent : ∀ other, label = .spawn other ∨ label = .crash other →
      Heeds service delivers id state queue label (some (.start other)) := by
    intro other begins
    have idle : state.recordsFor other ≠ some id := by
      rcases begins with rfl | rfl <;> exact attends
    have unnoted : noted service delivers id state label = [] := by
      rcases begins with rfl | rfl <;> rfl
    refine ⟨⟨?_, ?_, ?_, ?_, ?_, ?_⟩, unnoted⟩ <;> try simp [Queue.Clocked, Action.time]
    exact simulates.idle_only idle
  cases mirrors with
  | append arrival row receipt received unknown =>
      simp only [Action.only]
      split
      next named =>
        refine ⟨⟨?_, ?_, ?_, ?_, ?_, ?_⟩, rfl⟩ <;> simp [Queue.Clocked, Action.time]
      next => rfl
  | spawn worker => exact silent worker (.inl rfl)
  | crash worker => exact silent worker (.inr rfl)
  | read worker context requests =>
      constructor
      · exact simulates.attended_act attends rfl (by simp) (by simp) (by simp) (by simp)
      · simp [noted, requests, Call.recordsFor, Action.events]
  | claim worker context now lease chosen batch requests idle =>
      constructor
      · apply simulates.attended_act attends rfl (by simp) ?_ (by simp) (by simp)
        intro other time now lease fifo chosen batch same
        cases same
        simp [Queue.State.only, Session.only, idle]
      · simp [noted, requests, Call.recordsFor, Action.events]
  | consult worker context query requests unsettled =>
      apply heeds_consult simulates attends
      have nothing : service.answer context query = none := by
        unfold Service.answer
        split
        next => rfl
        next reply replied => exact unsettled reply replied
      rw [noted_ask requests, nothing]
      simp
  | decide worker context query reply verdict requests undecided replied judged =>
      have answered : service.answer context query = some verdict := by
        simp only [Service.answer, replied, judged]
      simp only [Action.only, Entry.named, service.refines.id_entry]
      by_cases about : service.store.id (service.subject query) = id
      · simp only [about, decide_true, if_true]
        apply heeds_decide simulates attends requests undecided answered about
        have held := simulates.mem_held (List.mem_of_head? (simulates.head_of_asked requests))
        exact ((simulates.sound.sessions worker).held_lent _ held).2
      · simp only [about, decide_false, Bool.false_eq_true, if_false]
        apply heeds_consult simulates attends
        rw [noted_ask requests, if_neg fun noted => about noted.2]
  | record worker context row rest verdict requests held decided =>
      have sight : ((queue.session worker).only id).decided =
          if service.store.id row = id then some (service.entry row, verdict) else none := by
        simp [Session.only, decided, Entry.named, service.refines.id_entry, Option.filter]
      simp only [Action.only, sight]
      by_cases about : service.store.id row = id
      · simp only [about, if_true, Option.isSome_some]
        constructor
        · apply simulates.attended_act attends rfl (by simp) (by simp) (by simp)
          intro other time due same entry given stands
          cases same
          simp only [Queue.State.only] at stands
          rw [sight, if_pos about, Option.some.injEq, Prod.mk.injEq] at stands
          rw [← stands.1]
          rfl
        · rw [noted_recording requests, if_pos about]
          rfl
      · simp only [about, if_false, Option.isSome_none, Bool.false_eq_true]
        apply heeds_consult simulates attends
        rw [noted_recording requests, if_neg about]

end Attendance

/-! ## Runs -/

section Runs

/-- The row keeps to the schedule, as far as its queue shows. -/
def OnTime (id : UUID) (events : List (Event Worker Int))
    (state : State Worker Row Ask Summary Arrival Receipt Reply) : Prop :=
  ∃ queue : QueueState Worker Body, Simulates service state queue ∧ Orderly (queue.only id) ∧
    Retried service.schedule events (queue.only id)

/-- A table in which exactly the rows in processing have a lease, and the row is new, or is
still to come. -/
structure Opening (id : UUID) (table : List Row) : Prop where
  distinct : (table.map service.store.id).Nodup
  leased : ∀ row ∈ table, (service.entry row).WellLeased
  fresh : ∀ row ∈ table, service.store.id row = id → (service.entry row).Fresh

variable {service} {delivers : Ask → Bool} {id : UUID} {events : List (Event Worker Int)}
variable {state after : State Worker Row Ask Summary Arrival Receipt Reply}
variable {label : Label Worker Row Ask Arrival Reply} {table : List Row}

theorem Opening.onTime (opening : Opening service id table) (clock : Int) :
    OnTime service id [] ({ State.initial clock with table } :
      State Worker Row Ask Summary Arrival Receipt Reply) := by
  have distinct : ((table.map service.entry).map fun entry => entry.card.id).Nodup := by
    simpa [Function.comp_def, service.refines.id_entry] using opening.distinct
  have leased : ∀ entry ∈ table.map service.entry, entry.WellLeased := by
    intro entry membership
    obtain ⟨row, rowMem, rfl⟩ := List.mem_map.mp membership
    exact opening.leased row rowMem
  refine ⟨{ Queue.State.initial clock with entries := table.map service.entry }, ?_, ?_, ?_⟩
  · constructor
    case sound => exact .idle clock distinct leased
    case entries => rfl
    case clock => rfl
    case follows =>
      intro worker
      exact ⟨rfl, rfl, fun settled => absurd rfl settled, by simp [State.initial]⟩
    case consulted => simp [Queue.State.initial]
  · apply Orderly.idle clock
    · exact distinct.sublist (List.filter_sublist.map _)
    · intro entry membership
      exact leased entry (List.mem_filter.mp membership).1
  · apply Retried.idle clock
    intro entry membership
    obtain ⟨listed, named⟩ := List.mem_filter.mp membership
    obtain ⟨row, rowMem, rfl⟩ := List.mem_map.mp listed
    apply opening.fresh row rowMem
    rw [← service.refines.id_entry]
    exact of_decide_eq_true named

variable [DecidableEq Worker]

/-- A step that the discipline allows keeps the row on time. -/
theorem OnTime.step (onTime : OnTime service id events state)
    (attends : Attends service delivers id state label)
    (stepped : Pactix.Worker.step service state label = some after) :
    OnTime service id (events ++ noted service delivers id state label) after := by
  obtain ⟨queue, simulates, orderly, retried⟩ := onTime
  rcases simulates.mirrored stepped with ⟨⟨arrival, rfl⟩, silent⟩ |
    ⟨action, queueAfter, answered, mirrors, simulatesAfter⟩
  · refine ⟨queue, silent, orderly, ?_⟩
    simpa [noted] using retried
  · have heeds := mirrors.heeds simulates attends
    have restricted := Queue.Step.only id simulates.sound answered
    refine ⟨queueAfter, simulatesAfter, ?_⟩
    cases seen : action.only id queue with
    | none =>
        rw [seen] at heeds restricted
        have same : queueAfter.only id = queue.only id := restricted
        have unnoted : noted service delivers id state label = [] := heeds
        rw [same, unnoted, List.append_nil]
        exact ⟨orderly, retried⟩
    | some own =>
        rw [seen] at heeds restricted
        obtain ⟨attended, sameEvents⟩ := heeds
        rw [sameEvents]
        exact ⟨orderly.step attended.clocked attended.timely restricted,
          retried.step (lone_only id queue) (lone_only id queueAfter) orderly attended restricted⟩

/-- The row is on time in every run that keeps to the discipline. -/
theorem onTime_of_observed {clock : Int} (opening : Opening service id table)
    (observed : Machine.Observed (machine service) (Attends service delivers id)
      (noted service delivers id) { State.initial clock with table } events after) :
    OnTime service id events after :=
  Machine.observed_invariant (OnTime service id)
    (fun attends stepped onTime => onTime.step attends stepped) observed (opening.onTime clock)

end Runs

end Pactix.Worker
