import Pactix.Wakeup.Notifier
import Pactix.Wakeup.Signals

/-!
# Wakeups

Every signal that reaches the loop is followed by a pass; a coalesced commit may have to do
without a signal of its own.
-/

namespace Pactix.Wakeup

open Foundation (Machine)

/-! ## Signals -/

/-- In `_wait_for_wake`. -/
def Phase.Blocked (phase : Phase) : Prop := phase.waits = true ∨ phase = .sleeping

/-- What the loop owes to its signals. -/
structure Attends (runner : WakeupRunner) (state : State) : Prop where
  /-- When the loop is blocked, no flag is set and no task has returned, a pass has started
  after the last signal. -/
  served : state.phase.Blocked → (∀ source, (state.event source).isSet = false) →
    (∀ source, (state.event source).waiter ≠ some (.finished .returned)) → Served state.history
  /-- While a flag is set, the task that waits for it is not suspended. -/
  awake : ∀ source, (state.event source).isSet = true →
    (state.event source).waiter ≠ some .suspended
  /-- While a signal is not served, the loop can go on without its timer. -/
  prompt : state.phase ≠ .stopped → ¬Served state.history →
    ∃ label : Label, label.Prompt ∧ (step runner state label).isSome = true
  /-- Whatever happens next, the loop starts a pass within 17 steps of its own. -/
  soon : ∀ labels after, (machine runner).replay Machine.Free state labels = some after →
    after.history.count .pass = state.history.count .pass →
    (labels.filter (·.Own)).length ≤ 17

theorem attends_of_attentive {runner : WakeupRunner} {state : State}
    (attentive : Attentive runner state) : Attends runner state where
  served blocked unset pending := by
    have running : state.phase ≠ .stopped := by
      intro stopped
      simp [Phase.Blocked, stopped, Phase.waits] at blocked
    refine (attentive.kept running).resolve_right ?_
    rintro ⟨source, _, isSet | returned⟩
    · simp [unset source] at isSet
    · exact pending source returned
  awake := attentive.awake
  prompt := attentive.prompt
  soon labels after replayed same := by
    have steps := own_steps_le replayed same
    have bound := remaining_le state
    omega

/-! ## Notifications -/

namespace NotifyingState

variable {Call : Type} [DecidableEq Call]

/-- Every commit is followed by a NOTIFY that comes no later than the coalesce interval after
the call of its producer. -/
def NotifiesEachCommit (runner : WakeupRunner) (state : NotifyingState Call) : Prop :=
  ∀ call committed began, (state.calls call).committed = some committed →
    (state.calls call).began = some began → (state.calls call).raised = none →
    began + runner.policy.coalesceInterval.totalSeconds < state.clock →
    ∃ other sent, (state.calls other).sent = some sent ∧ committed ≤ sent ∧
      sent ≤ began + runner.policy.coalesceInterval.totalSeconds

/-- No NOTIFY is sent, no signal comes and the timer does not run out, whatever is committed. -/
def Undisturbed (_ : NotifyingState Call) : NotifyingLabel Call → Prop
  | .send _ => False
  | .loop label => label.Idle
  | _ => True

omit [DecidableEq Call] in
instance (state : NotifyingState Call) (label : NotifyingLabel Call) :
    Decidable (Undisturbed state label) :=
  match label with
  | .send _ => isFalse id
  | .loop label => inferInstanceAs (Decidable label.Idle)
  | .tick _ | .commit _ | .notify _ | .finish _ | .fail _ => isTrue trivial

/-- What the notifier owes to the commits. -/
structure Notifies (runner : WakeupRunner) (state : NotifyingState Call) : Prop where
  /-- A call that has returned has sent a NOTIFY after its commit, or another call that began
  less than the coalesce interval before it had sent one. -/
  covered : ∀ call returned, (state.calls call).returned = some returned →
    ∃ committed began, (state.calls call).committed = some committed ∧
      (state.calls call).began = some began ∧ committed ≤ began ∧ began ≤ returned ∧
      ((∃ sent, (state.calls call).sent = some sent ∧ began ≤ sent ∧ sent ≤ returned) ∨
        ∃ other last sent finished, state.Succeeded other last sent finished ∧
          last ≤ sent ∧ sent ≤ finished ∧ finished ≤ began ∧
          began - last < runner.policy.coalesceInterval.totalSeconds)
  /-- A NOTIFY is a signal to a loop that has executed LISTEN. -/
  signals : ∀ call after, step runner state (.send call) = some after →
    state.loop.listens = true → ¬Served after.loop.history
  attends : Attends runner state.loop
  /-- A dormant loop starts no pass for a commit before a NOTIFY is sent, a signal comes or its
  timer runs out. -/
  dormant : state.loop.Dormant → ∀ after,
    (machine Call runner).Path Undisturbed state after →
      after.loop.history.count .pass = state.loop.history.count .pass

/-- What is not disturbed does not wake a quiet loop. -/
theorem quiet_step {runner : WakeupRunner} {state after : NotifyingState Call}
    {label : NotifyingLabel Call} (undisturbed : Undisturbed state label)
    (stepped : step runner state label = some after) (quiet : state.loop.Quiet) :
    after.loop.Quiet ∧
      after.loop.history.count .pass = state.loop.history.count .pass := by
  cases stepped_of_step stepped with
  | send => exact absurd undisturbed id
  | loop label loop loopStepped => exact quiet.step loopStepped undisturbed
  | tick | commit | skip | notify | finish | fail => exact ⟨quiet, rfl⟩

theorem dormant_of_path {runner : WakeupRunner} {state after : NotifyingState Call}
    (dormant : state.loop.Dormant)
    (path : (machine Call runner).Path Undisturbed state after) :
    after.loop.history.count .pass = state.loop.history.count .pass := by
  have kept := Machine.path_invariant (fun later => later.loop.Quiet ∧
      later.loop.history.count .pass = state.loop.history.count .pass)
    (fun undisturbed stepped ⟨quiet, same⟩ =>
      have ⟨stays, more⟩ := quiet_step undisturbed stepped quiet
      ⟨stays, more.trans same⟩)
    path ⟨dormant.quiet, rfl⟩
  exact kept.2

theorem notifies_of_coalesced {runner : WakeupRunner} {state : NotifyingState Call}
    (coalesced : Coalesced runner state)
    (path : (Wakeup.machine runner).Path Machine.Free (.initial runner) state.loop) :
    Notifies runner state where
  covered call returned isReturned := by
    have orderly := coalesced.orderly call
    obtain ⟨_, ⟨began, isBegun, inTime⟩, sentBefore⟩ := orderly.returned returned isReturned
    obtain ⟨_, committed, isCommitted, early⟩ := orderly.began began isBegun
    refine ⟨committed, began, isCommitted, isBegun, early, inTime, ?_⟩
    cases isSent : (state.calls call).sent with
    | some sent =>
        obtain ⟨_, start, isStart, later⟩ := orderly.sent sent isSent
        obtain rfl := Option.some.inj (isBegun.symm.trans isStart)
        exact .inl ⟨sent, rfl, later, sentBefore sent isSent⟩
    | none =>
        obtain ⟨other, last, sent, finished, succeeded, before, recent⟩ :=
          coalesced.covered call began returned isBegun isReturned isSent
        have others := coalesced.orderly other
        obtain ⟨_, start, isStart, later⟩ := others.sent sent succeeded.2.1
        obtain rfl := Option.some.inj (succeeded.1.symm.trans isStart)
        refine .inr ⟨other, last, sent, finished, succeeded, later, ?_, before, ?_⟩
        · exact (others.returned finished succeeded.2.2).2.2 sent succeeded.2.1
        · exact coalesced.interval ▸ recent
  signals call after stepped listens := by
    cases stepped_of_step stepped with
    | send call sending =>
        have listed := listener_of_listens path listens
        have heard : Wakeup.step runner state.loop (.signal .listener) = _ := if_pos listed
        simp only [deliver, record, listens, if_true, heard, Option.getD_some]
        exact not_served_signal _ _
  attends := attends_of_attentive (attentive_of_path path)
  dormant asleep _ := dormant_of_path asleep

end NotifyingState

end Pactix.Wakeup

namespace Pactix.Guarantees

open Foundation (Machine)
open Wakeup

/-- No signal is lost, whenever it comes. -/
theorem no_signal_lost (runner : WakeupRunner) (state : Wakeup.State)
    (path : (Wakeup.machine runner).Path Machine.Free (.initial runner) state) :
    Attends runner state :=
  attends_of_attentive (attentive_of_path path)

def listening : WakeupRunner where
  policy := { enabled := true }
  hasLocalWakeup := true
  dialect := .postgresql

/-- A local signal comes when the listener has won the wait, and stays for the next one. -/
def simultaneousRun : List Wakeup.Label :=
  [.begin, .advance .localWakeup, .connect, .advance .listener, .signal .listener,
    .advance .listener, .complete, .signal .localWakeup, .resume, .advance .localWakeup, .gathered,
    .signal .localWakeup, .returned 1, .returned 0, .advance .listener, .advance .localWakeup]

theorem no_signal_lost_sample :
    ∃ state, (Wakeup.machine listening).replay Machine.Free (.initial listening)
        simultaneousRun = some state ∧
      state.phase = .waiting false ∧
      (state.event .localWakeup).waiter = some (.finished .returned) ∧
      Attends listening state := by
  have path := (Wakeup.machine listening).path_replay Machine.Free (.initial listening)
    simultaneousRun (by decide +kernel)
  exact ⟨_, (Option.some_get _).symm, by decide +kernel, by decide +kernel,
    no_signal_lost listening _ path⟩

/-- Every call that returns has notified, or was skipped for a NOTIFY of a call that began
less than the coalesce interval before. -/
theorem notifications_coalesce {Call : Type} [DecidableEq Call] (runner : WakeupRunner)
    (state : NotifyingState Call)
    (path : (NotifyingState.machine Call runner).Path Machine.Free (.initial Call runner) state) :
    NotifyingState.Notifies runner state :=
  NotifyingState.notifies_of_coalesced (NotifyingState.coalesced_of_path path)
    (NotifyingState.loop_path path)

/-- The worker has served the first commit when the second one comes, 10 ms later. -/
def burst : List (NotifyingLabel Bool) :=
  [.loop .begin, .loop .connect, .loop (.advance .listener), .loop (.advance .localWakeup),
    .commit false, .notify false, .send false, .finish false, .loop (.advance .listener),
    .loop .complete, .loop .resume, .loop (.advance .localWakeup), .loop .gathered,
    .loop (.returned 1), .loop (.returned 0), .loop (.advance .listener),
    .loop (.advance .localWakeup), .tick (1 / 100), .commit true, .notify true, .tick 1]

theorem burst_replays : ((NotifyingState.machine Bool listening).replay Machine.Free
    (.initial Bool listening) burst).isSome = true := by
  decide +kernel

theorem notifications_coalesce_sample :
    ∃ state, (NotifyingState.machine Bool listening).replay Machine.Free
        (.initial Bool listening) burst = some state ∧
      (state.calls true).returned = some (1 / 100) ∧ state.loop.Dormant ∧
      NotifyingState.Notifies listening state := by
  have path := (NotifyingState.machine Bool listening).path_replay Machine.Free
    (.initial Bool listening) burst burst_replays
  refine ⟨_, (Option.some_get _).symm, by decide +kernel, ⟨.inr (by decide +kernel), ?_⟩,
    notifications_coalesce listening _ path⟩
  intro source
  cases source <;> decide +kernel

/-- A second later no NOTIFY has been sent for the second commit, and the worker is blocked. -/
theorem skipped_commit_unnotified :
    ∃ state, (NotifyingState.machine Bool listening).Path Machine.Free
        (.initial Bool listening) state ∧
      state.loop.phase = .waiting false ∧
      (∀ source, (state.loop.event source).isSet = false) ∧
      ¬NotifyingState.NotifiesEachCommit listening state := by
  refine ⟨_, (NotifyingState.machine Bool listening).path_replay Machine.Free
    (.initial Bool listening) burst burst_replays, by decide +kernel, ?_, ?_⟩
  · intro source
    cases source <;> decide +kernel
  · intro each
    obtain ⟨other, sent, isSent, late, _⟩ := each true (1 / 100) (1 / 100) (by decide +kernel)
      (by decide +kernel) (by decide +kernel) (by decide +kernel)
    cases other with
    | true =>
        have unsent := isSent.symm.trans (by decide +kernel : _ = (none : Option ℚ))
        simp at unsent
    | false =>
        have first := isSent.symm.trans (by decide +kernel : _ = some (0 : ℚ))
        obtain rfl := Option.some.inj first
        norm_num at late

end Pactix.Guarantees
