import Mathlib.Logic.Function.Basic
import Pactix.Dialect
import Pactix.Foundation.Event
import Pactix.Foundation.Machine

/-!
# The wakeup loop

`WakeupRunner.run` between the calls of `wake()`, the notifications and the fallback timer.
One step of the machine is what one task does between two awaits, or one callback of the event
loop, in any order.
-/

namespace Pactix.Wakeup

open Foundation (Event Machine)

/-! ## The fallback schedule -/

/-- Adaptive fallback polling schedule. -/
structure FallbackBackoff where
  initialSeconds : ℚ
  maxSeconds : ℚ
  multiplier : ℚ
  currentSeconds : ℚ

namespace FallbackBackoff

def new (policy : WakeupPolicy) : FallbackBackoff where
  initialSeconds := policy.fallbackInitialInterval.totalSeconds
  maxSeconds := policy.fallbackMaxInterval.totalSeconds
  multiplier := policy.fallbackMultiplier
  currentSeconds := policy.fallbackInitialInterval.totalSeconds

def recordWorkFound (backoff : FallbackBackoff) : FallbackBackoff :=
  { backoff with currentSeconds := backoff.initialSeconds }

def recordIdle (backoff : FallbackBackoff) : FallbackBackoff :=
  { backoff with
    currentSeconds := min (backoff.currentSeconds * backoff.multiplier) backoff.maxSeconds }

end FallbackBackoff

/-! ## The loop -/

/-- The signals that the loop waits for, each with its `asyncio.Event`. -/
inductive Source where
  /-- `LocalWakeup`. -/
  | localWakeup
  /-- `PostgresWakeListener`. -/
  | listener
  deriving DecidableEq, Repr

/-- What `WakeupRunner` is made with, and the dialect of the engine. -/
structure WakeupRunner where
  policy : WakeupPolicy
  hasLocalWakeup : Bool
  dialect : Dialect

namespace WakeupRunner

/-- `_make_listener` gives a listener. -/
def makesListener (runner : WakeupRunner) : Bool :=
  decide (runner.dialect = .postgresql) && decide (runner.policy.notifyMode ≠ .off)

/-- The sources that the loop waits for. -/
def sources (runner : WakeupRunner) : List Source :=
  (if runner.hasLocalWakeup then [.localWakeup] else []) ++
    if runner.makesListener then [.listener] else []

end WakeupRunner

/-- Where the loop is. -/
inductive Phase where
  | created
  /-- In `asyncio.sleep`: there is nothing to wait for. -/
  | sleeping
  /-- In `asyncio.wait`; released by the timer or by a task that is done. -/
  | waiting (released : Bool)
  /-- In `asyncio.gather`; raising when an exception is on its way out. -/
  | gathering (raising : Bool)
  /-- In `run_once`, after so many passes of this drain. -/
  | passing (passes : Nat) (foundWork : Bool)
  | stopped
  deriving DecidableEq, Repr

/-- The loop has waiter tasks. -/
def Phase.waits : Phase → Bool
  | waiting _ | gathering _ => true
  | _ => false

/-- What the loop and its signals have done, as a journal records it. -/
inductive Moment where
  | signal (source : Source)
  /-- The loop enters `_wait_for_wake`. -/
  | waits (timeout : ℚ)
  /-- A pass starts. -/
  | pass
  /-- `_drain` returns. -/
  | drained (foundWork : Bool)
  deriving DecidableEq

structure State where
  phase : Phase := .created
  event : Source → Event := fun _ => {}
  /-- The listener holds its connection. -/
  connected : Bool := false
  backoff : FallbackBackoff
  /-- Newest first. -/
  history : List Moment := []

/-- Before `run`. -/
def State.initial (runner : WakeupRunner) : State where
  backoff := .new runner.policy

/-- What can happen next. -/
inductive Label where
  /-- `wake()` or `_on_notify`. -/
  | signal (source : Source)
  | begin
  /-- A waiter task runs. -/
  | advance (source : Source)
  /-- `_ensure_listener` has its connection. -/
  | connect
  /-- `_ensure_listener` raises. -/
  | refuse
  | timeout
  /-- The callback of a task that is done. -/
  | complete
  /-- The loop goes on after `asyncio.wait`. -/
  | resume
  /-- The loop goes on after `asyncio.gather`. -/
  | gathered
  /-- `run_once` returns. -/
  | returned (claimed : Nat)
  /-- `run_once` raises, or the loop is cancelled. -/
  | stop
  deriving DecidableEq, Repr

/-- `_MAX_PASSES_PER_WAKE`. -/
def maxPassesPerWake : Nat := 100

namespace State

/-- Enter `_wait_for_wake`: create the waiter tasks and wait for the first of them. -/
def waitForWake (runner : WakeupRunner) (state : State) : State :=
  { state with
    phase := if runner.sources = [] then .sleeping else .waiting false
    event := fun source =>
      if source ∈ runner.sources then (state.event source).spawn else state.event source
    history := .waits state.backoff.currentSeconds :: state.history }

/-- Start a pass of `_drain`. -/
def startPass (passes : Nat) (foundWork : Bool) (state : State) : State :=
  { state with phase := .passing passes foundWork, history := .pass :: state.history }

/-- `_drain` returns, and the loop waits again. -/
def drained (runner : WakeupRunner) (foundWork : Bool) (state : State) : State :=
  waitForWake runner
    { state with
      backoff :=
        if foundWork then state.backoff.recordWorkFound else state.backoff.recordIdle
      history := .drained foundWork :: state.history }

/-- The `finally` of `_wait_for_wake`: cancel what is not done, and gather. -/
def gather (raising : Bool) (state : State) : State :=
  { state with phase := .gathering raising, event := fun source => (state.event source).cancel }

/-- Forget the tasks. -/
def collect (state : State) : State :=
  { state with event := fun source => (state.event source).collect }

/-- The listener's task has not come to its event, and has no connection to listen on. -/
def connecting (state : State) : Bool :=
  decide ((state.event .listener).waiter = some .starting) && !state.connected

/-- Some task is done. -/
def someFinished (state : State) : Bool :=
  [Source.localWakeup, .listener].any fun source =>
    (state.event source).waiter.any (·.isFinished)

/-- `task.result()` raises for some task that is done. -/
def someRaised (state : State) : Bool :=
  [Source.localWakeup, .listener].any fun source =>
    decide ((state.event source).waiter = some (.finished .raised))

/-- The listener's connection is checked out, and has executed LISTEN. -/
def listens (state : State) : Bool := state.connected && decide (state.phase ≠ .stopped)

/-- Every task is done. -/
def allFinished (state : State) : Bool :=
  [Source.localWakeup, .listener].all fun source =>
    (state.event source).waiter.all (·.isFinished)

end State

/-- The transition function. -/
def step (runner : WakeupRunner) (state : State) : Label → Option State
  | .signal source =>
      if source ∈ runner.sources then
        some { state with
          event := Function.update state.event source (state.event source).set
          history := .signal source :: state.history }
      else
        none
  | .begin =>
      match state.phase with
      | .created =>
          if runner.policy.enabled then some (state.waitForWake runner)
          else some { state with phase := .stopped }
      | _ => none
  | .advance source =>
      if source = .listener ∧ state.connecting then
        none
      else
        (state.event source).advance.map fun event =>
          { state with event := Function.update state.event source event }
  | .connect => if state.connecting then some { state with connected := true } else none
  | .refuse =>
      if state.connecting then
        some { state with
          event := Function.update state.event .listener (state.event .listener).fail }
      else
        none
  | .timeout =>
      match state.phase with
      | .sleeping => some (state.startPass 0 false)
      | .waiting false => some { state with phase := .waiting true }
      | _ => none
  | .complete =>
      if state.phase = .waiting false ∧ state.someFinished then
        some { state with phase := .waiting true }
      else
        none
  | .resume =>
      if state.phase = .waiting true then some (state.gather state.someRaised) else none
  | .gathered =>
      match state.phase with
      | .gathering raising =>
          if state.allFinished then
            if raising then some { state.collect with phase := .stopped }
            else some (state.collect.startPass 0 false)
          else
            none
      | _ => none
  | .returned claimed =>
      match state.phase with
      | .passing passes foundWork =>
          if claimed = 0 then some (state.drained runner foundWork)
          else if passes + 1 = maxPassesPerWake then some (state.drained runner true)
          else some (state.startPass (passes + 1) true)
      | _ => none
  | .stop =>
      match state.phase with
      | .waiting _ | .gathering _ => some (state.gather true)
      | _ => some { state with phase := .stopped }

/-- The machine of a loop. -/
def machine (runner : WakeupRunner) : Machine State Label := ⟨step runner⟩

/-- What a step of the loop can be. -/
inductive Stepped (runner : WakeupRunner) (state : State) : Label → State → Prop where
  | signal (source) (listens : source ∈ runner.sources) :
      Stepped runner state (.signal source) { state with
        event := Function.update state.event source (state.event source).set
        history := .signal source :: state.history }
  | begin (created : state.phase = .created) (enabled : runner.policy.enabled = true) :
      Stepped runner state .begin (state.waitForWake runner)
  | advance (source) (event) (ready : ¬(source = .listener ∧ state.connecting = true))
      (advanced : (state.event source).advance = some event) :
      Stepped runner state (.advance source)
        { state with event := Function.update state.event source event }
  | connect (connecting : state.connecting = true) :
      Stepped runner state .connect { state with connected := true }
  | refuse (connecting : state.connecting = true) :
      Stepped runner state .refuse { state with
        event := Function.update state.event .listener (state.event .listener).fail }
  | slept (sleeping : state.phase = .sleeping) :
      Stepped runner state .timeout (state.startPass 0 false)
  | release (label) (waiting : state.phase = .waiting false)
      (released : label = .timeout ∨ label = .complete ∧ state.someFinished = true) :
      Stepped runner state label { state with phase := .waiting true }
  | resume (waiting : state.phase = .waiting true) :
      Stepped runner state .resume (state.gather state.someRaised)
  | gathered (gathering : state.phase = .gathering false) (finished : state.allFinished = true) :
      Stepped runner state .gathered (state.collect.startPass 0 false)
  | raised (gathering : state.phase = .gathering true) (finished : state.allFinished = true) :
      Stepped runner state .gathered { state.collect with phase := .stopped }
  | passed (passes) (found) (claimed) (passing : state.phase = .passing passes found)
      (worked : claimed ≠ 0) (further : passes + 1 ≠ maxPassesPerWake) :
      Stepped runner state (.returned claimed) (state.startPass (passes + 1) true)
  | drained (passes) (found) (claimed) (foundWork)
      (passing : state.phase = .passing passes found)
      (last : claimed = 0 ∧ foundWork = found ∨
        claimed ≠ 0 ∧ passes + 1 = maxPassesPerWake ∧ foundWork = true) :
      Stepped runner state (.returned claimed) (state.drained runner foundWork)
  | interrupt (waits : state.phase.waits = true) :
      Stepped runner state .stop (state.gather true)
  | stop (label) (idle : state.phase.waits = false)
      (ended : label = .stop ∨
        label = .begin ∧ state.phase = .created ∧ runner.policy.enabled = false) :
      Stepped runner state label { state with phase := .stopped }

theorem stepped_of_step {runner : WakeupRunner} {state after : State} {label : Label}
    (stepped : step runner state label = some after) : Stepped runner state label after := by
  cases label with
  | signal source =>
      simp only [step] at stepped
      split at stepped
      next listens =>
        obtain rfl := Option.some.inj stepped
        exact .signal source listens
      · simp at stepped
  | begin =>
      simp only [step] at stepped
      split at stepped
      next created =>
        split at stepped
        next enabled =>
          obtain rfl := Option.some.inj stepped
          exact .begin created enabled
        next disabled =>
          obtain rfl := Option.some.inj stepped
          exact .stop _ (by simp [created, Phase.waits])
            (.inr ⟨rfl, created, by simpa using disabled⟩)
      · simp at stepped
  | advance source =>
      simp only [step] at stepped
      split at stepped
      · simp at stepped
      next ready =>
        obtain ⟨event, advanced, rfl⟩ := Option.map_eq_some_iff.mp stepped
        exact .advance source event ready advanced
  | connect =>
      simp only [step] at stepped
      split at stepped
      next connecting =>
        obtain rfl := Option.some.inj stepped
        exact .connect connecting
      · simp at stepped
  | refuse =>
      simp only [step] at stepped
      split at stepped
      next connecting =>
        obtain rfl := Option.some.inj stepped
        exact .refuse connecting
      · simp at stepped
  | timeout =>
      simp only [step] at stepped
      split at stepped
      next sleeping =>
        obtain rfl := Option.some.inj stepped
        exact .slept sleeping
      next waiting =>
        obtain rfl := Option.some.inj stepped
        exact .release _ waiting (.inl rfl)
      · simp at stepped
  | complete =>
      simp only [step] at stepped
      split at stepped
      next completes =>
        obtain rfl := Option.some.inj stepped
        exact .release _ completes.1 (.inr ⟨rfl, completes.2⟩)
      · simp at stepped
  | resume =>
      simp only [step] at stepped
      split at stepped
      next waiting =>
        obtain rfl := Option.some.inj stepped
        exact .resume waiting
      · simp at stepped
  | gathered =>
      simp only [step] at stepped
      split at stepped
      next raising gathering =>
        split at stepped
        next finished =>
          cases raising with
          | true =>
              obtain rfl := Option.some.inj stepped
              exact .raised gathering finished
          | false =>
              obtain rfl := Option.some.inj stepped
              exact .gathered gathering finished
        · simp at stepped
      · simp at stepped
  | returned claimed =>
      simp only [step] at stepped
      split at stepped
      next passes found passing =>
        split at stepped
        next none =>
          obtain rfl := Option.some.inj stepped
          exact .drained passes found claimed _ passing (.inl ⟨none, rfl⟩)
        next worked =>
          split at stepped
          next last =>
            obtain rfl := Option.some.inj stepped
            exact .drained passes found claimed _ passing (.inr ⟨worked, last, rfl⟩)
          next further =>
            obtain rfl := Option.some.inj stepped
            exact .passed passes found claimed passing worked further
      · simp at stepped
  | stop =>
      simp only [step] at stepped
      cases phase : state.phase <;> rw [phase] at stepped <;> obtain rfl := Option.some.inj stepped
      case waiting | gathering => exact .interrupt (by simp [phase, Phase.waits])
      all_goals exact .stop _ (by simp [phase, Phase.waits]) (.inl rfl)

end Pactix.Wakeup
