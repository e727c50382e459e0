import Pactix.Wakeup.Loop

/-!
# Coalesced notifications

Producers that commit and then call `notify()` on one notifier, with the loop that listens.
Calls may overlap: a call reads the clock and decides in one step, sends its NOTIFY in another,
and is recorded in a third.
-/

namespace Pactix.Wakeup

open Foundation (Machine)

/-- App-level debounced `pg_notify` for COALESCED mode. -/
structure CoalescedNotifier where
  coalesceSeconds : ℚ
  lastNotified : Option ℚ := none

namespace CoalescedNotifier

def new (policy : WakeupPolicy) : CoalescedNotifier where
  coalesceSeconds := policy.coalesceInterval.totalSeconds

/-- The last successful NOTIFY is too recent. -/
def tooRecent (notifier : CoalescedNotifier) (now : ℚ) : Bool :=
  match notifier.lastNotified with
  | none => false
  | some last => decide (now - last < notifier.coalesceSeconds)

end CoalescedNotifier

/-- When the producer of a call has committed, and what its call of `notify()` has done. -/
structure CallRecord where
  committed : Option ℚ := none
  /-- `time.monotonic()` at the start of the call. -/
  began : Option ℚ := none
  sent : Option ℚ := none
  returned : Option ℚ := none
  raised : Option ℚ := none

namespace CallRecord

/-- The call is in `_execute_notify`. -/
def executing (record : CallRecord) : Bool :=
  record.began.isSome && record.returned.isNone && record.raised.isNone

/-- The call is in `_execute_notify`, and its NOTIFY is not sent. -/
def sending (record : CallRecord) : Bool := record.executing && record.sent.isNone

end CallRecord

/-- The monotonic clock, the notifier, its calls, and a loop. -/
structure NotifyingState (Call : Type) where
  clock : ℚ := 0
  notifier : CoalescedNotifier
  calls : Call → CallRecord := fun _ => {}
  loop : State

def NotifyingState.initial (Call : Type) (runner : WakeupRunner) : NotifyingState Call where
  notifier := .new runner.policy
  loop := .initial runner

/-- What can happen next. -/
inductive NotifyingLabel (Call : Type) where
  | tick (delta : ℚ)
  /-- The producer's transaction commits. -/
  | commit (call : Call)
  /-- `notify()` starts. -/
  | notify (call : Call)
  /-- The transaction of `_execute_notify` commits, which sends the NOTIFY. -/
  | send (call : Call)
  /-- The call records its success and returns. -/
  | finish (call : Call)
  /-- `_execute_notify` raises, which it can do after the NOTIFY is sent. -/
  | fail (call : Call)
  | loop (label : Label)

namespace NotifyingState

variable {Call : Type} [DecidableEq Call]

def record (state : NotifyingState Call) (call : Call) (record : CallRecord) :
    NotifyingState Call :=
  { state with calls := Function.update state.calls call record }

/-- A loop that listens gets the notification. -/
def deliver (runner : WakeupRunner) (state : NotifyingState Call) : NotifyingState Call :=
  if state.loop.listens then
    { state with loop := (step runner state.loop (.signal .listener)).getD state.loop }
  else
    state

/-- The transition function. -/
def step (runner : WakeupRunner) (state : NotifyingState Call) :
    NotifyingLabel Call → Option (NotifyingState Call)
  | .tick delta => if 0 ≤ delta then some { state with clock := state.clock + delta } else none
  | .commit call =>
      let calls := state.calls call
      if calls.committed.isNone then
        some (state.record call { calls with committed := some state.clock })
      else
        none
  | .notify call =>
      let calls := state.calls call
      if calls.committed.isSome && calls.began.isNone then
        let now := state.clock
        if state.notifier.tooRecent now then
          some (state.record call { calls with began := some now, returned := some now })
        else
          some (state.record call { calls with began := some now })
      else
        none
  | .send call =>
      let calls := state.calls call
      if calls.sending then
        some ((state.record call { calls with sent := some state.clock }).deliver runner)
      else
        none
  | .finish call =>
      let calls := state.calls call
      if calls.executing && calls.sent.isSome then
        let notifier := { state.notifier with lastNotified := calls.began }
        some { state.record call { calls with returned := some state.clock } with notifier }
      else
        none
  | .fail call =>
      let calls := state.calls call
      if calls.executing then
        some (state.record call { calls with raised := some state.clock })
      else
        none
  | .loop label => (Wakeup.step runner state.loop label).map fun loop => { state with loop }

/-- What a step of the producers and the loop can be. -/
inductive Stepped (runner : WakeupRunner) (state : NotifyingState Call) :
    NotifyingLabel Call → NotifyingState Call → Prop where
  | tick (delta) (forward : 0 ≤ delta) :
      Stepped runner state (.tick delta) { state with clock := state.clock + delta }
  | commit (call) (uncommitted : (state.calls call).committed = none) :
      Stepped runner state (.commit call)
        (state.record call { state.calls call with committed := some state.clock })
  | skip (call) (committed) (isCommitted : (state.calls call).committed = some committed)
      (fresh : (state.calls call).began = none)
      (recent : state.notifier.tooRecent state.clock = true) :
      Stepped runner state (.notify call) (state.record call
        { state.calls call with began := some state.clock, returned := some state.clock })
  | notify (call) (committed) (isCommitted : (state.calls call).committed = some committed)
      (fresh : (state.calls call).began = none)
      (due : state.notifier.tooRecent state.clock = false) :
      Stepped runner state (.notify call)
        (state.record call { state.calls call with began := some state.clock })
  | send (call) (sending : (state.calls call).sending = true) :
      Stepped runner state (.send call)
        ((state.record call { state.calls call with sent := some state.clock }).deliver runner)
  | finish (call) (sent) (isSent : (state.calls call).sent = some sent)
      (executing : (state.calls call).executing = true) :
      Stepped runner state (.finish call)
        { state.record call { state.calls call with returned := some state.clock } with
          notifier := { state.notifier with lastNotified := (state.calls call).began } }
  | fail (call) (executing : (state.calls call).executing = true) :
      Stepped runner state (.fail call)
        (state.record call { state.calls call with raised := some state.clock })
  | loop (label) (loop) (stepped : Wakeup.step runner state.loop label = some loop) :
      Stepped runner state (.loop label) { state with loop }

theorem stepped_of_step {runner : WakeupRunner} {state after : NotifyingState Call}
    {label : NotifyingLabel Call} (stepped : step runner state label = some after) :
    Stepped runner state label after := by
  cases label with
  | loop label =>
      obtain ⟨loop, loopStepped, rfl⟩ := Option.map_eq_some_iff.mp stepped
      exact .loop label loop loopStepped
  | notify call =>
      simp only [step] at stepped
      split at stepped
      next ready =>
        simp only [Bool.and_eq_true, Option.isSome_iff_exists, Option.isNone_iff_eq_none] at ready
        obtain ⟨⟨committed, isCommitted⟩, fresh⟩ := ready
        split at stepped
        next recent =>
          obtain rfl := Option.some.inj stepped
          exact .skip call committed isCommitted fresh recent
        next due =>
          obtain rfl := Option.some.inj stepped
          exact .notify call committed isCommitted fresh (by simpa using due)
      · simp at stepped
  | finish call =>
      simp only [step] at stepped
      split at stepped
      next ready =>
        simp only [Bool.and_eq_true, Option.isSome_iff_exists] at ready
        obtain ⟨executing, sent, isSent⟩ := ready
        obtain rfl := Option.some.inj stepped
        exact .finish call sent isSent executing
      · simp at stepped
  | tick delta =>
      simp only [step] at stepped
      split at stepped
      next forward =>
        obtain rfl := Option.some.inj stepped
        exact .tick delta forward
      · simp at stepped
  | commit call =>
      simp only [step, Option.isNone_iff_eq_none] at stepped
      split at stepped
      next uncommitted =>
        obtain rfl := Option.some.inj stepped
        exact .commit call uncommitted
      · simp at stepped
  | send call =>
      simp only [step] at stepped
      split at stepped
      next sending =>
        obtain rfl := Option.some.inj stepped
        exact .send call sending
      · simp at stepped
  | fail call =>
      simp only [step] at stepped
      split at stepped
      next executing =>
        obtain rfl := Option.some.inj stepped
        exact .fail call executing
      · simp at stepped

/-- The machine of the producers and a loop. -/
def machine (Call : Type) [DecidableEq Call] (runner : WakeupRunner) :
    Machine (NotifyingState Call) (NotifyingLabel Call) :=
  ⟨step runner⟩

/-! ## What the calls leave behind -/

/-- The times of a record are in order, and not later than the clock. -/
structure Orderly (clock : ℚ) (record : CallRecord) : Prop where
  committed : ∀ time, record.committed = some time → time ≤ clock
  began : ∀ time, record.began = some time →
    time ≤ clock ∧ ∃ earlier, record.committed = some earlier ∧ earlier ≤ time
  sent : ∀ time, record.sent = some time →
    time ≤ clock ∧ ∃ earlier, record.began = some earlier ∧ earlier ≤ time
  returned : ∀ time, record.returned = some time → time ≤ clock ∧
    (∃ earlier, record.began = some earlier ∧ earlier ≤ time) ∧
    ∀ earlier, record.sent = some earlier → earlier ≤ time

/-- A call that began at the given time has sent its NOTIFY and has returned. -/
def Succeeded (state : NotifyingState Call) (call : Call) (began sent returned : ℚ) : Prop :=
  (state.calls call).began = some began ∧ (state.calls call).sent = some sent ∧
    (state.calls call).returned = some returned

/-- Whoever returns has sent a NOTIFY or was skipped for the sake of a recent one. -/
structure Coalesced (runner : WakeupRunner) (state : NotifyingState Call) : Prop where
  orderly : ∀ call, Orderly state.clock (state.calls call)
  interval : state.notifier.coalesceSeconds = runner.policy.coalesceInterval.totalSeconds
  last : ∀ last, state.notifier.lastNotified = some last →
    ∃ call sent returned, state.Succeeded call last sent returned
  covered : ∀ call began returned, (state.calls call).began = some began →
    (state.calls call).returned = some returned → (state.calls call).sent = none →
    ∃ other last sent finished, state.Succeeded other last sent finished ∧ finished ≤ began ∧
      began - last < state.notifier.coalesceSeconds

namespace Orderly

variable {clock later : ℚ} {record : CallRecord}

theorem mono (orderly : Orderly clock record) (forward : clock ≤ later) :
    Orderly later record where
  committed time is := (orderly.committed time is).trans forward
  began time is := ⟨(orderly.began time is).1.trans forward, (orderly.began time is).2⟩
  sent time is := ⟨(orderly.sent time is).1.trans forward, (orderly.sent time is).2⟩
  returned time is := ⟨(orderly.returned time is).1.trans forward, (orderly.returned time is).2⟩

/-- What has not been committed has not begun, and what has not begun has not gone on. -/
theorem not_begun (orderly : Orderly clock record) (uncommitted : record.committed = none) :
    record.began = none := by
  cases began : record.began with
  | none => rfl
  | some time =>
      obtain ⟨_, _, committed, _⟩ := orderly.began time began
      simp [uncommitted] at committed

theorem not_sent (orderly : Orderly clock record) (fresh : record.began = none) :
    record.sent = none := by
  cases sent : record.sent with
  | none => rfl
  | some time =>
      obtain ⟨_, _, began, _⟩ := orderly.sent time sent
      simp [fresh] at began

theorem not_returned (orderly : Orderly clock record) (fresh : record.began = none) :
    record.returned = none := by
  cases returned : record.returned with
  | none => rfl
  | some time =>
      obtain ⟨_, ⟨_, began, _⟩, _⟩ := orderly.returned time returned
      simp [fresh] at began

end Orderly

section Coalesced

variable {runner : WakeupRunner} {state after : NotifyingState Call} {call : Call}
  {latest : CallRecord}

/-- A record that only adds to the one of its call takes no success back. -/
theorem Succeeded.record {other : Call} {began sent returned : ℚ}
    (succeeded : state.Succeeded other began sent returned)
    (began_kept : ∀ time, (state.calls call).began = some time → latest.began = some time)
    (sent_kept : ∀ time, (state.calls call).sent = some time → latest.sent = some time)
    (returned_kept : ∀ time, (state.calls call).returned = some time →
      latest.returned = some time) :
    (state.record call latest).Succeeded other began sent returned := by
  obtain ⟨isBegun, isSent, isReturned⟩ := succeeded
  by_cases own : other = call
  · subst own
    simp only [Succeeded, NotifyingState.record, Function.update_self]
    exact ⟨began_kept _ isBegun, sent_kept _ isSent, returned_kept _ isReturned⟩
  · simp only [Succeeded, NotifyingState.record, Function.update_of_ne own]
    exact ⟨isBegun, isSent, isReturned⟩

theorem Coalesced.record (coalesced : Coalesced runner state)
    (began_kept : ∀ time, (state.calls call).began = some time → latest.began = some time)
    (sent_kept : ∀ time, (state.calls call).sent = some time → latest.sent = some time)
    (returned_kept : ∀ time, (state.calls call).returned = some time →
      latest.returned = some time)
    (orderly : Orderly state.clock latest)
    (covered : ∀ began returned, latest.began = some began → latest.returned = some returned →
      latest.sent = none → ∃ other last sent finished,
        state.Succeeded other last sent finished ∧ finished ≤ began ∧
          began - last < state.notifier.coalesceSeconds) :
    Coalesced runner (state.record call latest) where
  orderly other := by
    by_cases own : other = call
    · subst own
      simpa [NotifyingState.record] using orderly
    · simpa [NotifyingState.record, own] using coalesced.orderly other
  interval := coalesced.interval
  last last isLast := by
    obtain ⟨other, sent, returned, succeeded⟩ := coalesced.last last isLast
    exact ⟨other, sent, returned, succeeded.record began_kept sent_kept returned_kept⟩
  covered other began returned isBegun isReturned unsent := by
    have known : ∃ other last sent finished, state.Succeeded other last sent finished ∧
        finished ≤ began ∧ began - last < state.notifier.coalesceSeconds := by
      by_cases own : other = call
      · subst own
        simp only [NotifyingState.record, Function.update_self] at isBegun isReturned unsent
        exact covered began returned isBegun isReturned unsent
      · simp only [NotifyingState.record, Function.update_of_ne own] at isBegun isReturned unsent
        exact coalesced.covered other began returned isBegun isReturned unsent
    obtain ⟨other, last, sent, finished, succeeded, early, recent⟩ := known
    exact ⟨other, last, sent, finished, succeeded.record began_kept sent_kept returned_kept,
      early, recent⟩

omit [DecidableEq Call] in
/-- The notifier's memory, the clock and the loop do not bear on the calls. -/
theorem Coalesced.of_calls (coalesced : Coalesced runner state) (calls : after.calls = state.calls)
    (notifier : after.notifier = state.notifier) (forward : state.clock ≤ after.clock) :
    Coalesced runner after where
  orderly call := by
    rw [calls]
    exact (coalesced.orderly call).mono forward
  interval := by rw [notifier, coalesced.interval]
  last last isLast := by
    rw [notifier] at isLast
    simpa only [Succeeded, calls] using coalesced.last last isLast
  covered call began returned isBegun isReturned unsent := by
    rw [calls] at isBegun isReturned unsent
    simpa only [Succeeded, calls, notifier] using
      coalesced.covered call began returned isBegun isReturned unsent

theorem Coalesced.step {label : NotifyingLabel Call} (coalesced : Coalesced runner state)
    (stepped : NotifyingState.step runner state label = some after) :
    Coalesced runner after := by
  cases stepped_of_step stepped with
  | tick delta forward => exact coalesced.of_calls rfl rfl (le_add_of_nonneg_right forward)
  | loop => exact coalesced.of_calls rfl rfl (le_refl _)
  | commit call uncommitted =>
      have orderly := coalesced.orderly call
      have fresh := orderly.not_begun uncommitted
      refine coalesced.record (fun _ => id) (fun _ => id) (fun _ => id) ?_ ?_
      · refine ⟨?_, ?_, orderly.sent, orderly.returned⟩
        · rintro time ⟨⟩
          exact le_refl _
        · simp [fresh]
      · exact coalesced.covered call
  | skip call committed isCommitted fresh recent =>
      have orderly := coalesced.orderly call
      have early := orderly.committed committed isCommitted
      refine coalesced.record (by simp [fresh]) (fun _ => id)
        (by simp [orderly.not_returned fresh]) ?_ ?_
      · refine ⟨orderly.committed, ?_, by simp [orderly.not_sent fresh], ?_⟩
        · rintro time ⟨⟩
          exact ⟨le_refl _, committed, isCommitted, early⟩
        · rintro time ⟨⟩
          exact ⟨le_refl _, ⟨_, rfl, le_refl _⟩, by simp [orderly.not_sent fresh]⟩
      · rintro began returned ⟨⟩ _ _
        unfold CoalescedNotifier.tooRecent at recent
        split at recent
        · simp at recent
        next last isLast =>
          obtain ⟨other, sent, finished, succeeded⟩ := coalesced.last last isLast
          exact ⟨other, last, sent, finished, succeeded,
            ((coalesced.orderly other).returned _ succeeded.2.2).1, of_decide_eq_true recent⟩
  | notify call committed isCommitted fresh due =>
      have orderly := coalesced.orderly call
      have early := orderly.committed committed isCommitted
      have running := orderly.not_returned fresh
      refine coalesced.record (by simp [fresh]) (fun _ => id) (fun _ => id) ?_ ?_
      · refine ⟨orderly.committed, ?_, by simp [orderly.not_sent fresh], by simp [running]⟩
        rintro time ⟨⟩
        exact ⟨le_refl _, committed, isCommitted, early⟩
      · simp [running]
  | send call sending =>
      have orderly := coalesced.orderly call
      simp only [CallRecord.sending, CallRecord.executing, Bool.and_eq_true,
        Option.isSome_iff_exists, Option.isNone_iff_eq_none] at sending
      obtain ⟨⟨⟨⟨began, isBegun⟩, running⟩, _⟩, unsent⟩ := sending
      have early := (orderly.began began isBegun).1
      have recorded : Coalesced runner (state.record call
          { state.calls call with sent := some state.clock }) := by
        refine coalesced.record (fun _ => id) (by simp [unsent]) (fun _ => id) ?_ (by simp)
        refine ⟨orderly.committed, orderly.began, ?_, by simp [running]⟩
        rintro time ⟨⟩
        exact ⟨le_refl _, began, isBegun, early⟩
      unfold deliver
      split
      · exact recorded.of_calls rfl rfl (le_refl _)
      · exact recorded
  | finish call sent isSent executing =>
      have orderly := coalesced.orderly call
      have running : (state.calls call).returned = none := by
        simp only [CallRecord.executing, Bool.and_eq_true, Option.isNone_iff_eq_none] at executing
        exact executing.1.2
      obtain ⟨early, began, isBegun, _⟩ := orderly.sent sent isSent
      have recorded : Coalesced runner (state.record call
          { state.calls call with returned := some state.clock }) := by
        refine coalesced.record (fun _ => id) (fun _ => id) (by simp [running]) ?_ ?_
        · refine ⟨orderly.committed, orderly.began, orderly.sent, ?_⟩
          rintro time ⟨⟩
          refine ⟨le_refl _, ⟨began, isBegun, (orderly.began began isBegun).1⟩, ?_⟩
          intro earlier isEarlier
          exact (orderly.sent earlier isEarlier).1
        · simp [isSent]
      refine ⟨recorded.orderly, recorded.interval, ?_, recorded.covered⟩
      intro last isLast
      exact ⟨call, sent, state.clock, by simpa [NotifyingState.record] using isLast, by
        simpa [NotifyingState.record] using isSent, by simp [NotifyingState.record]⟩
  | fail call executing =>
      have orderly := coalesced.orderly call
      refine coalesced.record (fun _ => id) (fun _ => id) (fun _ => id) ?_ ?_
      · exact ⟨orderly.committed, orderly.began, orderly.sent, orderly.returned⟩
      · exact coalesced.covered call

omit [DecidableEq Call] in
/-- A NOTIFY is a signal to the loop, or the loop does not get it. -/
theorem loop_deliver (runner : WakeupRunner) (state : NotifyingState Call) :
    (state.deliver runner).loop = state.loop ∨ state.loop.listens = true ∧
      Wakeup.step runner state.loop (.signal .listener) = some (state.deliver runner).loop := by
  unfold deliver
  split
  next listens =>
    cases heard : Wakeup.step runner state.loop (.signal .listener) with
    | none => exact .inl rfl
    | some loop => exact .inr ⟨listens, rfl⟩
  next => exact .inl rfl

/-- What the loop goes through is a run of the loop. -/
theorem loop_path
    (path : (machine Call runner).Path Machine.Free (.initial Call runner) state) :
    (Wakeup.machine runner).Path Machine.Free (.initial runner) state.loop := by
  induction path with
  | refl => exact .refl
  | @tail before _ _ last ih =>
      obtain ⟨label, _, stepped⟩ := last
      cases stepped_of_step stepped with
      | loop label loop loopStepped => exact ih.tail ⟨label, trivial, loopStepped⟩
      | send call =>
          rcases loop_deliver runner (before.record call
            { before.calls call with sent := some before.clock }) with same | ⟨_, heard⟩
          · rw [same]
            exact ih
          · exact ih.tail ⟨.signal .listener, trivial, heard⟩
      | tick | commit | skip | notify | finish | fail => exact ih

theorem coalesced_of_path
    (path : (machine Call runner).Path Machine.Free (.initial Call runner) state) :
    Coalesced runner state := by
  apply Machine.path_invariant (Coalesced runner)
    (fun _ stepped coalesced => Coalesced.step coalesced stepped) path
  constructor
  · intro call
    constructor <;> simp [NotifyingState.initial]
  · rfl
  · simp [NotifyingState.initial, CoalescedNotifier.new]
  · simp [NotifyingState.initial]

end Coalesced

end NotifyingState

end Pactix.Wakeup
