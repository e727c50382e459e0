import Pactix.Wakeup.Loop

/-!
# Signals and passes

A signal stays in its flag, or in a task that has taken it, until a pass starts; and how many
steps the loop takes until then.
-/

namespace Pactix.Wakeup

open Foundation (Event Machine)

/-- A pass has started after the last signal. -/
def Served (history : List Moment) : Prop :=
  ∀ later source earlier, history = later ++ .signal source :: earlier → Moment.pass ∈ later

theorem served_nil : Served [] := by
  intro later source earlier same
  simp at same

theorem served_pass (history : List Moment) : Served (.pass :: history) := by
  intro later source earlier same
  cases later with
  | nil => simp at same
  | cons moment later =>
      rw [List.cons_append, List.cons.injEq] at same
      rw [← same.1]
      exact List.mem_cons_self

theorem not_served_signal (source : Source) (history : List Moment) :
    ¬Served (.signal source :: history) := by
  intro served
  exact absurd (served [] source history rfl) List.not_mem_nil

theorem Served.cons {history : List Moment} (served : Served history) {moment : Moment}
    (other : ∀ source, moment ≠ .signal source) : Served (moment :: history) := by
  intro later source earlier same
  cases later with
  | nil =>
      rw [List.nil_append, List.cons.injEq] at same
      exact absurd same.1 (other source)
  | cons first later =>
      rw [List.cons_append, List.cons.injEq] at same
      exact List.mem_cons_of_mem _ (served later source earlier same.2)

/-- Until it is served, a signal is in its flag or in a task that has taken it. -/
structure Attentive (runner : WakeupRunner) (state : State) : Prop where
  /-- There are tasks only while the loop waits for them. -/
  idle : state.phase.waits = false → ∀ source, (state.event source).waiter = none
  tasks : state.phase.waits = true → ∀ source ∈ runner.sources, (state.event source).waiter ≠ none
  ending : ∀ raising, state.phase = .gathering raising → ∀ source, (state.event source).Ending
  sleeps : state.phase = .sleeping → runner.sources = []
  awake : ∀ source, (state.event source).Awake
  kept : state.phase ≠ .stopped →
    Served state.history ∨ ∃ source ∈ runner.sources, (state.event source).Signalled

namespace Attentive

variable {runner : WakeupRunner} {state after : State} {label : Label}

theorem initial (runner : WakeupRunner) : Attentive runner (.initial runner) where
  idle _ _ := rfl
  tasks := by simp [State.initial, Phase.waits]
  ending := by simp [State.initial]
  sleeps := by simp [State.initial]
  awake _ := by simp [State.initial, Event.Awake]
  kept _ := .inl served_nil

/-- Entering the wait keeps the flags. -/
theorem waitForWake (awake : ∀ source, (state.event source).Awake)
    (idle : ∀ source, (state.event source).waiter = none)
    (kept : Served state.history ∨ ∃ source ∈ runner.sources, (state.event source).Signalled) :
    Attentive runner (state.waitForWake runner) where
  idle waits source := by
    simp only [State.waitForWake] at waits ⊢
    split at waits
    next none => simp [none, idle]
    next => simp [Phase.waits] at waits
  tasks _ source listed := by simp [State.waitForWake, listed, Event.spawn]
  ending raising := by
    simp only [State.waitForWake]
    split <;> simp
  sleeps sleeping := by
    simp only [State.waitForWake] at sleeping
    split at sleeping
    next none => exact none
    next => simp at sleeping
  awake source := by
    simp only [State.waitForWake]
    split
    · exact Event.awake_spawn _
    · exact awake source
  kept _ := by
    cases kept with
    | inl served => exact .inl (served.cons (by simp))
    | inr signalled =>
        obtain ⟨source, listed, signalled⟩ := signalled
        have isSet : (state.event source).isSet = true := by
          simpa [Event.Signalled, idle source] using signalled
        refine .inr ⟨source, listed, .inl ?_⟩
        simp only [State.waitForWake, if_pos listed]
        exact isSet

/-- One event changes. -/
theorem update (attentive : Attentive runner state) {source : Source} {event : Event}
    (tasks : event.waiter = none ↔ (state.event source).waiter = none)
    (ending : (state.event source).Ending → event.Ending) (awake : event.Awake)
    {history : List Moment}
    (kept : (Served state.history ∨ ∃ source ∈ runner.sources, (state.event source).Signalled) →
      Served history ∨
        ∃ other ∈ runner.sources, (Function.update state.event source event other).Signalled) :
    Attentive runner
      { state with event := Function.update state.event source event, history } where
  idle waits other := by
    by_cases own : other = source
    · subst own
      simpa using tasks.mpr (attentive.idle waits other)
    · simpa [own] using attentive.idle waits other
  tasks waits other listed := by
    by_cases own : other = source
    · subst own
      simpa using mt tasks.mp (attentive.tasks waits other listed)
    · simpa [own] using attentive.tasks waits other listed
  ending raising gathering other := by
    by_cases own : other = source
    · subst own
      simpa using ending (attentive.ending raising gathering other)
    · simpa [own] using attentive.ending raising gathering other
  sleeps := attentive.sleeps
  awake other := by
    by_cases own : other = source
    · subst own
      simpa using awake
    · simpa [own] using attentive.awake other
  kept running := kept (attentive.kept running)

/-- A change that keeps the signal of its event keeps all signals. -/
theorem kept_update {source : Source} {event : Event}
    (own : (state.event source).Signalled → event.Signalled)
    (kept : Served state.history ∨ ∃ source ∈ runner.sources, (state.event source).Signalled) :
    Served state.history ∨
      ∃ other ∈ runner.sources, (Function.update state.event source event other).Signalled := by
  refine kept.imp_right fun ⟨other, listed, signalled⟩ => ⟨other, listed, ?_⟩
  by_cases same : other = source
  · subst same
    simpa using own signalled
  · simpa [same] using signalled

/-- Starting a pass serves every signal. -/
theorem startPass (awake : ∀ source, (state.event source).Awake)
    (idle : ∀ source, (state.event source).waiter = none) (passes : Nat) (foundWork : Bool) :
    Attentive runner (state.startPass passes foundWork) where
  idle _ := idle
  tasks := by simp [State.startPass, Phase.waits]
  ending := by simp [State.startPass]
  sleeps := by simp [State.startPass]
  awake := awake
  kept _ := .inl (served_pass _)

theorem gather (attentive : Attentive runner state) (waits : state.phase.waits = true)
    (raising : Bool) : Attentive runner (state.gather raising) where
  idle := by simp [State.gather, Phase.waits]
  tasks _ source listed := by simpa [State.gather] using attentive.tasks waits source listed
  ending _ _ _ := Event.ending_cancel _
  sleeps := by simp [State.gather]
  awake _ := Event.awake_cancel _
  kept _ := by
    have running : state.phase ≠ .stopped := by
      intro stopped
      simp [stopped, Phase.waits] at waits
    rcases attentive.kept running with served | ⟨source, listed, signalled⟩
    · exact .inl served
    · exact .inr ⟨source, listed, signalled.cancel⟩

/-- The loop has ended. -/
theorem stopped (awake : ∀ source, (state.event source).Awake)
    (idle : ∀ source, (state.event source).waiter = none) :
    Attentive runner { state with phase := .stopped } where
  idle _ := idle
  tasks := by simp [Phase.waits]
  ending := by simp
  sleeps := by simp
  awake := awake
  kept running := absurd rfl running

theorem step (attentive : Attentive runner state)
    (stepped : step runner state label = some after) : Attentive runner after := by
  cases stepped_of_step stepped with
  | signal source listens =>
      apply attentive.update Event.waiter_set_eq_none Event.Ending.set
        (Event.awake_set _ (attentive.awake source))
      intro _
      exact .inr ⟨source, listens, by simpa using Event.signalled_set _⟩
  | begin created enabled =>
      have idle := attentive.idle (by simp [created, Phase.waits])
      exact waitForWake attentive.awake idle (attentive.kept (by simp [created]))
  | advance source event ready advanced =>
      obtain ⟨before, later⟩ := Event.waiter_advance advanced
      apply attentive.update (iff_of_false later before) (fun ending => ending.advance advanced)
        (Event.awake_advance advanced)
      exact kept_update fun signalled => signalled.advance advanced
  | connect =>
      exact ⟨attentive.idle, attentive.tasks, attentive.ending, attentive.sleeps,
        attentive.awake, attentive.kept⟩
  | refuse connecting =>
      have starting : (state.event .listener).waiter = some .starting := by
        simp only [State.connecting, Bool.and_eq_true, decide_eq_true_eq] at connecting
        exact connecting.1
      apply attentive.update (by simp [Event.fail, starting]) _ (Event.awake_fail _)
      · apply kept_update
        intro signalled
        left
        simpa [Event.Signalled, Event.fail, starting] using signalled
      · intro _ waiter present
        obtain rfl := Option.some.inj present
        exact .inr rfl
  | slept sleeping =>
      exact startPass attentive.awake (attentive.idle (by simp [sleeping, Phase.waits])) _ _
  | release label waiting released =>
      have waits : state.phase.waits = true := by simp [waiting, Phase.waits]
      exact ⟨by simp [Phase.waits], fun _ => attentive.tasks waits, by simp, by simp,
        attentive.awake, fun _ => attentive.kept (by simp [waiting])⟩
  | resume waiting => exact attentive.gather (by simp [waiting, Phase.waits]) _
  | gathered gathering finished =>
      exact startPass (fun _ => Event.awake_collect _) (fun _ => rfl) _ _
  | raised gathering finished => exact stopped (fun _ => Event.awake_collect _) fun _ => rfl
  | passed passes found claimed passing worked further =>
      exact startPass attentive.awake (attentive.idle (by simp [passing, Phase.waits])) _ _
  | drained passes found claimed foundWork passing last =>
      unfold State.drained
      have idle := attentive.idle (by simp [passing, Phase.waits])
      refine waitForWake attentive.awake idle ?_
      exact (attentive.kept (by simp [passing])).imp_left fun served => served.cons (by simp)
  | interrupt waits => exact attentive.gather waits true
  | stop label idle ended => exact stopped attentive.awake (attentive.idle idle)

end Attentive

theorem attentive_of_path {runner : WakeupRunner} {state : State}
    (path : (machine runner).Path Machine.Free (.initial runner) state) :
    Attentive runner state :=
  Machine.path_invariant (Attentive runner)
    (fun _ stepped attentive => attentive.step stepped) path (.initial runner)

/-! ## Tasks and connection -/

/-- Only what the loop waits for has a task, and a connection. -/
structure Equipped (runner : WakeupRunner) (state : State) : Prop where
  tasks : ∀ source, (state.event source).waiter ≠ none → source ∈ runner.sources
  connected : state.connected = true → .listener ∈ runner.sources

namespace Equipped

variable {runner : WakeupRunner} {state after : State} {label : Label}

theorem initial (runner : WakeupRunner) : Equipped runner (.initial runner) where
  tasks _ present := absurd rfl present
  connected isConnected := by simp [State.initial] at isConnected

/-- One event changes. -/
theorem update (equipped : Equipped runner state) {source : Source} {event : Event}
    (tasks : event.waiter ≠ none → (state.event source).waiter ≠ none) {history : List Moment} :
    Equipped runner
      { state with event := Function.update state.event source event, history } where
  tasks other present := by
    by_cases own : other = source
    · subst own
      exact equipped.tasks other (tasks (by simpa using present))
    · exact equipped.tasks other (by simpa [own] using present)
  connected := equipped.connected

theorem waitForWake (equipped : Equipped runner state) :
    Equipped runner (state.waitForWake runner) where
  tasks source present := by
    by_contra unlisted
    simp only [State.waitForWake, unlisted, if_false] at present
    exact unlisted (equipped.tasks source present)
  connected := equipped.connected

theorem step (equipped : Equipped runner state)
    (stepped : step runner state label = some after) : Equipped runner after := by
  cases stepped_of_step stepped with
  | signal source => exact equipped.update (mt Event.waiter_set_eq_none.mpr)
  | begin | drained => exact waitForWake ⟨equipped.tasks, equipped.connected⟩
  | advance source event ready advanced =>
      exact equipped.update fun _ => (Event.waiter_advance advanced).1
  | connect connecting =>
      refine ⟨equipped.tasks, fun _ => equipped.tasks .listener ?_⟩
      simp only [State.connecting, Bool.and_eq_true, decide_eq_true_eq] at connecting
      simp [connecting.1]
  | refuse connecting =>
      refine equipped.update fun _ => ?_
      simp only [State.connecting, Bool.and_eq_true, decide_eq_true_eq] at connecting
      simp [connecting.1]
  | resume | interrupt =>
      exact ⟨fun source present =>
          equipped.tasks source (mt Event.waiter_cancel_eq_none.mpr present),
        equipped.connected⟩
  | gathered | raised => exact ⟨fun _ present => absurd rfl present, equipped.connected⟩
  | slept | release | passed | stop => exact ⟨equipped.tasks, equipped.connected⟩

end Equipped

/-- A loop that listens has a listener. -/
theorem listener_of_listens {runner : WakeupRunner} {state : State}
    (path : (machine runner).Path Machine.Free (.initial runner) state)
    (listens : state.listens = true) : .listener ∈ runner.sources := by
  have equipped := Machine.path_invariant (Equipped runner)
    (fun _ stepped equipped => equipped.step stepped) path (.initial runner)
  simp only [State.listens, Bool.and_eq_true] at listens
  exact equipped.connected listens.1

/-! ## Without a signal -/

/-- The loop is in its wait, and nothing that has come wakes it. -/
structure State.Dormant (state : State) : Prop where
  asleep : state.phase = .sleeping ∨ state.phase = .waiting false
  unstirred : ∀ source, (state.event source).Unstirred

/-- The loop is dormant or on its way out. -/
def State.Quiet (state : State) : Prop :=
  match state.phase with
  | .sleeping | .waiting false => ∀ source, (state.event source).Unstirred
  | .waiting true =>
      (∀ source, (state.event source).Unstirred) ∧
        ∃ source, (state.event source).waiter = some (.finished .raised)
  | .gathering true | .stopped => True
  | .created | .gathering false | .passing _ _ => False

/-- Neither a signal nor the timer. -/
def Label.Idle : Label → Prop
  | .signal _ | .timeout => False
  | _ => True

instance : DecidablePred Label.Idle := fun label => by
  cases label <;> unfold Label.Idle <;> infer_instance

section Quiet

variable {runner : WakeupRunner} {state after : State} {label : Label}

theorem State.Dormant.quiet (dormant : state.Dormant) : state.Quiet := by
  unfold State.Quiet
  rcases dormant.asleep with sleeping | waiting
  · simpa only [sleeping] using dormant.unstirred
  · simpa only [waiting] using dormant.unstirred

/-- One event changes, and is stirred no more than before. -/
theorem State.Quiet.update (quiet : state.Quiet) {source : Source} {event : Event}
    (unstirred : (state.event source).Unstirred → event.Unstirred)
    (raised : (state.event source).waiter = some (.finished .raised) →
      event.waiter = some (.finished .raised)) :
    State.Quiet { state with event := Function.update state.event source event } := by
  have calm : (∀ other, (state.event other).Unstirred) →
      ∀ other, (Function.update state.event source event other).Unstirred := by
    intro before other
    by_cases own : other = source
    · subst own
      simpa using unstirred (before other)
    · simpa [own] using before other
  unfold State.Quiet at quiet ⊢
  dsimp only
  split at quiet
  · exact calm quiet
  · exact calm quiet
  · obtain ⟨before, other, present⟩ := quiet
    refine ⟨calm before, other, ?_⟩
    by_cases own : other = source
    · subst own
      simpa using raised present
    · simpa [own] using present
  · trivial
  · trivial
  all_goals exact quiet

/-- Without a signal and without its timer, a quiet loop starts no pass. -/
theorem State.Quiet.step (quiet : state.Quiet) (stepped : step runner state label = some after)
    (idle : label.Idle) : after.Quiet ∧ after.history.count .pass = state.history.count .pass := by
  cases stepped_of_step stepped with
  | signal => exact absurd idle id
  | begin created => simp [State.Quiet, created] at quiet
  | advance source event ready advanced =>
      refine ⟨quiet.update (fun unstirred => unstirred.advance advanced) fun raised => ?_, rfl⟩
      simp [Event.advance, raised] at advanced
  | connect => exact ⟨quiet, rfl⟩
  | refuse => exact ⟨quiet.update Event.Unstirred.fail fun _ => rfl, rfl⟩
  | slept => exact absurd idle id
  | release label waiting released =>
      obtain ⟨rfl, finished⟩ := released.resolve_left (by
        rintro rfl
        exact idle)
      simp only [State.Quiet, waiting] at quiet
      refine ⟨⟨quiet, ?_⟩, rfl⟩
      simp only [State.someFinished, List.any_eq_true, Option.any_eq_true] at finished
      obtain ⟨source, _, waiter, present, isFinished⟩ := finished
      rcases (quiet source).2 waiter present with rfl | rfl | rfl
      · simp [Foundation.Waiter.isFinished] at isFinished
      · simp [Foundation.Waiter.isFinished] at isFinished
      · exact ⟨source, present⟩
  | resume waiting =>
      simp only [State.Quiet, waiting] at quiet
      obtain ⟨_, source, present⟩ := quiet
      have raised : state.someRaised = true := by
        unfold State.someRaised
        cases source <;> simp [present]
      simp [State.Quiet, State.gather, raised]
  | gathered gathering => simp [State.Quiet, gathering] at quiet
  | raised => exact ⟨trivial, rfl⟩
  | passed passes found claimed passing => simp [State.Quiet, passing] at quiet
  | drained passes found claimed foundWork passing => simp [State.Quiet, passing] at quiet
  | interrupt | stop => exact ⟨trivial, rfl⟩

end Quiet

/-! ## How long a signal waits -/

namespace Label

/-- Taken by the loop, its tasks or its timer. -/
def Own : Label → Prop
  | signal _ | stop => False
  | _ => True

instance : DecidablePred Own := fun label => by
  cases label <;> unfold Own <;> infer_instance

/-- Taken by the loop or its tasks. -/
def Prompt (label : Label) : Prop := label.Own ∧ label ≠ .timeout

end Label

def Phase.remaining : Phase → Nat
  | created | passing _ _ => 10
  | waiting false => 3
  | waiting true => 2
  | sleeping | gathering _ => 1
  | stopped => 0

/-- The steps of its own that the loop can take before it starts a pass, at most. -/
def State.remaining (state : State) : Nat :=
  (state.event .localWakeup).remaining + (state.event .listener).remaining +
    (!state.connected).toNat + state.phase.remaining

section Remaining

variable {runner : WakeupRunner} {state after : State} {label : Label}

/-- A task that is neither suspended nor done can go on, or the listener's connection can. -/
theorem advance_enabled {source : Source} {waiter : Foundation.Waiter}
    (present : (state.event source).waiter = some waiter) (awake : waiter ≠ .suspended)
    (unfinished : waiter.isFinished = false) :
    ∃ label : Label, label.Prompt ∧ (step runner state label).isSome = true := by
  by_cases connecting : source = .listener ∧ state.connecting = true
  · exact ⟨.connect, ⟨trivial, by simp⟩, by simp [step, connecting.2]⟩
  · refine ⟨.advance source, ⟨trivial, by simp⟩, ?_⟩
    simp only [step, if_neg connecting, Option.isSome_map]
    exact Event.advance_isSome present awake unfinished

theorem someFinished_of {source : Source} {waiter : Foundation.Waiter}
    (present : (state.event source).waiter = some waiter) (finished : waiter.isFinished = true) :
    state.someFinished = true := by
  unfold State.someFinished
  cases source <;> simp [present, finished]

theorem unfinished_of (unfinished : ¬state.allFinished = true) :
    ∃ source waiter, (state.event source).waiter = some waiter ∧ waiter.isFinished = false := by
  by_contra finished
  apply unfinished
  simp only [State.allFinished, List.all_eq_true, Option.all_eq_true]
  intro source _ waiter present
  by_contra running
  exact finished ⟨source, waiter, present, Bool.eq_false_iff.mpr running⟩

/-- While a signal waits, the loop can go on without its timer. -/
theorem Attentive.prompt (attentive : Attentive runner state) (running : state.phase ≠ .stopped)
    (unserved : ¬Served state.history) :
    ∃ label : Label, label.Prompt ∧ (Wakeup.step runner state label).isSome = true := by
  obtain ⟨source, listed, signalled⟩ := (attentive.kept running).resolve_left unserved
  cases phase : state.phase with
  | created =>
      refine ⟨.begin, ⟨trivial, by simp⟩, ?_⟩
      simp only [Wakeup.step, phase]
      split <;> rfl
  | sleeping => simp [attentive.sleeps phase] at listed
  | passing passes foundWork =>
      refine ⟨.returned 0, ⟨trivial, by simp⟩, ?_⟩
      simp [Wakeup.step, phase]
  | stopped => exact absurd phase running
  | waiting released =>
      cases released with
      | true => exact ⟨.resume, ⟨trivial, by simp⟩, by simp [Wakeup.step, phase]⟩
      | false =>
          have present := attentive.tasks (by simp [phase, Phase.waits]) source listed
          obtain ⟨waiter, present⟩ := Option.ne_none_iff_exists'.mp present
          cases finished : waiter.isFinished with
          | true =>
              have finished := someFinished_of present finished
              exact ⟨.complete, ⟨trivial, by simp⟩, by simp [Wakeup.step, phase, finished]⟩
          | false =>
              apply advance_enabled present _ finished
              rintro rfl
              have isSet : (state.event source).isSet = true := by
                simpa [Event.Signalled, present] using signalled
              exact attentive.awake source isSet present
  | gathering raising =>
      by_cases finished : state.allFinished = true
      · refine ⟨.gathered, ⟨trivial, by simp⟩, ?_⟩
        simp only [Wakeup.step, phase, finished, if_true]
        cases raising <;> rfl
      · obtain ⟨other, waiter, present, unfinished⟩ := unfinished_of finished
        have cancelled : waiter = .cancelled :=
          (attentive.ending raising phase other waiter present).resolve_right (by simp [unfinished])
        exact advance_enabled present (by simp [cancelled]) unfinished

theorem remaining_update_lt {source : Source} {event : Event}
    (less : event.remaining < (state.event source).remaining) :
    State.remaining { state with event := Function.update state.event source event } <
      state.remaining := by
  cases source <;> simpa [State.remaining] using less

theorem remaining_waitForWake (far : state.phase.remaining = 10) :
    (state.waitForWake runner).remaining < state.remaining := by
  have first := Event.remaining_le ((state.waitForWake runner).event .localWakeup)
  have second := Event.remaining_le ((state.waitForWake runner).event .listener)
  have phase : (state.waitForWake runner).phase.remaining ≤ 3 := by
    simp only [State.waitForWake]
    split <;> simp [Phase.remaining]
  have connected : (state.waitForWake runner).connected = state.connected := rfl
  simp only [State.remaining, far, connected]
  omega

theorem remaining_gather (state : State) (raising : Bool) :
    (state.gather raising).remaining + state.phase.remaining ≤ state.remaining + 1 := by
  have first := Event.remaining_cancel (state.event .localWakeup)
  have second := Event.remaining_cancel (state.event .listener)
  have phase : (state.gather raising).phase.remaining = 1 := rfl
  rw [State.remaining, State.remaining, phase]
  simp only [State.gather]
  omega

/-- Every own step that does not start a pass brings the next one nearer. -/
theorem remaining_own (stepped : step runner state label = some after) (own : label.Own)
    (same : after.history.count .pass = state.history.count .pass) :
    after.remaining < state.remaining := by
  cases stepped_of_step stepped with
  | signal => exact absurd own id
  | begin created => exact remaining_waitForWake (by simp [created, Phase.remaining])
  | advance source event ready advanced =>
      exact remaining_update_lt (Event.remaining_advance advanced)
  | connect connecting =>
      simp only [State.connecting, Bool.and_eq_true, Bool.not_eq_true'] at connecting
      simp [State.remaining, connecting.2]
  | refuse connecting =>
      simp only [State.connecting, Bool.and_eq_true, decide_eq_true_eq] at connecting
      apply remaining_update_lt
      simp [Event.remaining, Event.fail, connecting.1]
  | release label waiting => simp [State.remaining, waiting, Phase.remaining]
  | resume waiting =>
      have gathered := remaining_gather state state.someRaised
      simp only [waiting, Phase.remaining] at gathered
      omega
  | raised gathering =>
      simp only [State.remaining, State.collect, gathering, Phase.remaining, Event.collect,
        Event.remaining]
      omega
  | drained passes found claimed foundWork passing =>
      have far : state.phase.remaining = 10 := by simp [passing, Phase.remaining]
      exact lt_of_lt_of_eq (remaining_waitForWake far) rfl
  | slept | gathered | passed =>
      simp [State.startPass, State.collect] at same
  | interrupt => exact absurd own id
  | stop label idle ended =>
      rcases ended with rfl | ⟨_, created, _⟩
      · exact absurd own id
      · simp [State.remaining, created, Phase.remaining]

/-- The other steps do not put it off. -/
theorem remaining_other (stepped : step runner state label = some after) (other : ¬label.Own) :
    after.remaining ≤ state.remaining := by
  cases stepped_of_step stepped with
  | signal source listens =>
      have less := Event.remaining_set (state.event source)
      cases source <;> simpa [State.remaining] using less
  | interrupt waits =>
      have gathered := remaining_gather state true
      have positive : 1 ≤ state.phase.remaining := by
        cases phase : state.phase with
        | waiting released => cases released <;> decide
        | gathering raising => simp [Phase.remaining]
        | created | sleeping | passing | stopped => simp [phase, Phase.waits] at waits
      omega
  | stop label idle ended => simp [State.remaining, Phase.remaining]
  | release label waiting released =>
      rcases released with rfl | ⟨rfl, _⟩ <;> exact absurd trivial other
  | begin | advance | connect | refuse | slept | resume | gathered | raised | passed | drained =>
      exact absurd trivial other

theorem remaining_le (state : State) : state.remaining ≤ 17 := by
  have first := Event.remaining_le (state.event .localWakeup)
  have second := Event.remaining_le (state.event .listener)
  have connection := Bool.toNat_le (!state.connected)
  have phase : state.phase.remaining ≤ 10 := by
    unfold Phase.remaining
    split <;> decide
  unfold State.remaining
  omega

theorem count_pass_le (stepped : step runner state label = some after) :
    state.history.count .pass ≤ after.history.count .pass := by
  apply List.Sublist.count_le
  cases stepped_of_step stepped with
  | connect | advance | refuse | release | resume | raised | interrupt | stop =>
      exact List.Sublist.refl _
  | signal | begin | slept | gathered | passed => exact List.sublist_cons_self _ _
  | drained => exact (List.sublist_cons_self _ _).trans (List.sublist_cons_self _ _)

theorem count_pass_replay {labels : List Label}
    (replayed : (machine runner).replay Machine.Free state labels = some after) :
    state.history.count .pass ≤ after.history.count .pass :=
  Machine.path_invariant (fun later => state.history.count .pass ≤ later.history.count .pass)
    (fun _ stepped before => before.trans (count_pass_le stepped))
    (Machine.path_of_replay replayed) (le_refl _)

/-- So many own steps the loop takes before it starts a pass. -/
theorem own_steps_le {labels : List Label}
    (replayed : (machine runner).replay Machine.Free state labels = some after)
    (same : after.history.count .pass = state.history.count .pass) :
    (labels.filter (·.Own)).length + after.remaining ≤ state.remaining := by
  induction labels generalizing state with
  | nil =>
      obtain rfl := Option.some.inj replayed
      simp
  | cons label labels ih =>
      obtain ⟨_, next, stepped, rest⟩ := Machine.replay_cons_eq_some.mp replayed
      have first := count_pass_le stepped
      have later := count_pass_replay rest
      have fewer := ih rest (by omega)
      rw [List.filter_cons]
      split
      next own =>
        have less := remaining_own stepped (by simpa using own) (by omega)
        rw [List.length_cons]
        omega
      next other =>
        have less := remaining_other stepped (by simpa using other)
        omega

end Remaining

end Pactix.Wakeup
