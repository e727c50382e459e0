import Mathlib.Data.List.Induction
import Pactix.Foundation.Backoff
import Pactix.Wakeup.Loop

/-!
# The pace of the fallback polling

The backoff is updated by whole drains, from a capped value.  Here the timeouts of a run are
told from the passes that returned before them.
-/

namespace Pactix.Wakeup

open Foundation

/-! ## What a run shows -/

/-- A wait that begins, and a pass that returns with its number of claimed rows. -/
inductive Poll where
  | waits (timeout : ℚ)
  | returned (claimed : Nat)
  deriving DecidableEq

def Moment.wait? : Moment → Option Poll
  | .signal _ => none
  | .waits timeout => some (.waits timeout)
  | .pass => none
  | .drained _ => none

/-- What a step adds to the history, oldest first. -/
def added (before after : State) : List Moment :=
  (after.history.take (after.history.length - before.history.length)).reverse

def Label.return? : Label → Option Poll
  | .returned claimed => some (.returned claimed)
  | _ => none

/-- What a step shows: the pass that has returned, and the wait that begins. -/
def polls (runner : WakeupRunner) (state : State) (label : Label) : List Poll :=
  label.return?.toList ++
    ((step runner state label).toList.flatMap (added state)).filterMap Moment.wait?

/-- The rows claimed by the passes of each drain, the latest drain first.  A wait opens the
next drain. -/
def drains (shown : List Poll) : List (List Nat) :=
  shown.foldl (fun drains poll =>
    match poll, drains with
    | .waits _, drains => [] :: drains
    | .returned claimed, drain :: drains => (drain ++ [claimed]) :: drains
    | .returned _, [] => []) []

/-- Some pass of the drain has claimed rows. -/
def foundWork (drain : List Nat) : Bool := drain.any fun claimed => decide (claimed ≠ 0)

/-- The number of drains, since the last one that found work, whose first pass claimed no
row. -/
def idleDrains (drains : List (List Nat)) : Nat :=
  (drains.takeWhile fun drain => !foundWork drain).countP fun drain =>
    decide (drain.head? = some 0)

/-- The timeout after so many idle drains. -/
def timeout (policy : WakeupPolicy) (idle : Nat) : ℚ :=
  min (policy.fallbackInitialInterval.totalSeconds * policy.fallbackMultiplier ^ idle)
    policy.fallbackMaxInterval.totalSeconds

/-- Every wait has the timeout of the idle drains before it. -/
def Paced (policy : WakeupPolicy) (shown : List Poll) : Prop :=
  ∀ (index : Nat) (wait : ℚ), shown[index]? = some (.waits wait) →
    wait = timeout policy (idleDrains (drains (shown.take index)))

theorem added_eq {before after : State} {moments : List Moment}
    (history : after.history = moments ++ before.history) :
    added before after = moments.reverse := by
  simp [added, history]

@[simp] theorem drains_waits (shown : List Poll) (wait : ℚ) :
    drains (shown ++ [.waits wait]) = [] :: drains shown := by
  simp [drains]

theorem drains_returned {shown : List Poll} {drain : List Nat} {earlier : List (List Nat)}
    (drained : drains shown = drain :: earlier) (claimed : Nat) :
    drains (shown ++ [.returned claimed]) = (drain ++ [claimed]) :: earlier := by
  simp only [drains] at drained ⊢
  rw [List.foldl_append, drained]
  rfl

theorem idleDrains_cons (drain : List Nat) (earlier : List (List Nat)) :
    idleDrains (drain :: earlier) =
      if foundWork drain then 0
      else idleDrains earlier + if drain.head? = some 0 then 1 else 0 := by
  cases found : foundWork drain with
  | true => simp [idleDrains, found]
  | false => simp [idleDrains, found, List.countP_cons]

@[simp] theorem idleDrains_nil_cons (earlier : List (List Nat)) :
    idleDrains ([] :: earlier) = idleDrains earlier := by
  simp [idleDrains_cons, foundWork]

/-- Passes that claim no row end no idle time. -/
theorem idleDrains_le_append (shown : List Poll) {more : List Poll}
    (idle : ∀ claimed, .returned claimed ∈ more → claimed = 0) :
    idleDrains (drains shown) ≤ idleDrains (drains (shown ++ more)) := by
  induction more using List.reverseRecOn with
  | nil => rw [List.append_nil]
  | append_singleton more poll ih =>
      have before := ih fun claimed membership => idle claimed (List.mem_append_left _ membership)
      rw [← List.append_assoc]
      cases poll with
      | waits wait =>
          rw [drains_waits, idleDrains_nil_cons]
          exact before
      | returned claimed =>
          obtain rfl := idle claimed (by simp)
          cases drained : drains (shown ++ more) with
          | nil =>
              rw [drained] at before
              exact before.trans (Nat.zero_le _)
          | cons drain earlier =>
              rw [drained] at before
              rw [drains_returned drained]
              apply before.trans
              rw [idleDrains_cons, idleDrains_cons]
              cases drain <;> simp [foundWork]

theorem Paced.nil (policy : WakeupPolicy) : Paced policy [] := by
  intro index wait shown
  simp at shown

/-- What is shown next keeps the pace when a wait does. -/
theorem Paced.concat {policy : WakeupPolicy} {shown : List Poll} (paced : Paced policy shown)
    {poll : Poll} (next : ∀ wait, poll = .waits wait →
      wait = timeout policy (idleDrains (drains shown))) : Paced policy (shown ++ [poll]) := by
  intro index wait found
  by_cases earlier : index < shown.length
  · rw [List.getElem?_append_left earlier] at found
    rw [List.take_append_of_le_length earlier.le]
    exact paced index wait found
  · obtain ⟨bound, _⟩ := List.getElem?_eq_some_iff.mp found
    have last : index = shown.length := by
      rw [List.length_append, List.length_singleton] at bound
      omega
    subst last
    rw [List.getElem?_concat_length, Option.some.injEq] at found
    rw [List.take_left]
    exact next wait found

/-! ## The pace of a run -/

/-- A policy that backs off. -/
structure BacksOff (policy : WakeupPolicy) : Prop where
  positive : 0 < policy.fallbackInitialInterval
  within : policy.fallbackInitialInterval ≤ policy.fallbackMaxInterval
  growing : 1 ≤ policy.fallbackMultiplier

namespace BacksOff

variable {policy : WakeupPolicy} (backsOff : BacksOff policy)
include backsOff

theorem seconds_pos : 0 < policy.fallbackInitialInterval.totalSeconds := by
  rw [TimeDelta.totalSeconds]
  exact div_pos (by exact_mod_cast backsOff.positive) (by norm_num)

theorem seconds_le : policy.fallbackInitialInterval.totalSeconds ≤
    policy.fallbackMaxInterval.totalSeconds := by
  rw [TimeDelta.totalSeconds, TimeDelta.totalSeconds]
  exact div_le_div_of_nonneg_right (by exact_mod_cast backsOff.within) (by norm_num)

theorem timeout_zero : timeout policy 0 = policy.fallbackInitialInterval.totalSeconds :=
  cappedPower_zero backsOff.seconds_le

/-- Multiplying and capping once more is what the closed form says. -/
theorem timeout_succ (idle : Nat) :
    min (timeout policy idle * policy.fallbackMultiplier) policy.fallbackMaxInterval.totalSeconds =
      timeout policy (idle + 1) :=
  cappedPower_succ backsOff.seconds_pos.le backsOff.growing backsOff.seconds_le idle

theorem timeout_mono {fewer more : Nat} (ordered : fewer ≤ more) :
    timeout policy fewer ≤ timeout policy more :=
  cappedPower_mono backsOff.seconds_pos.le backsOff.growing ordered

theorem le_timeout (idle : Nat) :
    policy.fallbackInitialInterval.totalSeconds ≤ timeout policy idle :=
  le_cappedPower backsOff.seconds_pos.le backsOff.growing backsOff.seconds_le idle

end BacksOff

/-- The backoff of a policy, at some point of its schedule. -/
structure FallbackBackoff.Follows (policy : WakeupPolicy) (backoff : FallbackBackoff) : Prop where
  initial : backoff.initialSeconds = policy.fallbackInitialInterval.totalSeconds
  max : backoff.maxSeconds = policy.fallbackMaxInterval.totalSeconds
  multiplier : backoff.multiplier = policy.fallbackMultiplier

namespace FallbackBackoff

variable {policy : WakeupPolicy} {backoff : FallbackBackoff}

theorem follows_new (policy : WakeupPolicy) : (new policy).Follows policy := ⟨rfl, rfl, rfl⟩

theorem Follows.recordIdle (follows : backoff.Follows policy) :
    backoff.recordIdle.Follows policy :=
  ⟨follows.initial, follows.max, follows.multiplier⟩

theorem Follows.recordWorkFound (follows : backoff.Follows policy) :
    backoff.recordWorkFound.Follows policy :=
  ⟨follows.initial, follows.max, follows.multiplier⟩

/-- An idle drain goes on to the next timeout. -/
theorem current_recordIdle (backsOff : BacksOff policy) (follows : backoff.Follows policy)
    {idle : Nat} (current : backoff.currentSeconds = timeout policy idle) :
    backoff.recordIdle.currentSeconds = timeout policy (idle + 1) := by
  rw [← backsOff.timeout_succ, ← current, ← follows.max, ← follows.multiplier]
  rfl

/-- The iterated backoff is the closed form. -/
theorem iterate_recordIdle (backsOff : BacksOff policy) (idle : Nat) :
    (FallbackBackoff.recordIdle^[idle] (new policy)).Follows policy ∧
      (FallbackBackoff.recordIdle^[idle] (new policy)).currentSeconds = timeout policy idle := by
  induction idle with
  | zero => exact ⟨follows_new policy, backsOff.timeout_zero.symm⟩
  | succ idle ih =>
      rw [Function.iterate_succ_apply']
      exact ⟨ih.1.recordIdle, current_recordIdle backsOff ih.1 ih.2⟩

end FallbackBackoff

/-- How the backoff, the pass and the drains that were shown go together. -/
def Phase.Accounts (policy : WakeupPolicy) (current : ℚ) (drains : List (List Nat)) :
    Phase → Prop
  | .created => drains = [] ∧ current = timeout policy 0
  | .sleeping | .waiting _ | .gathering _ =>
      ∃ earlier, drains = [] :: earlier ∧ current = timeout policy (idleDrains earlier)
  -- Every pass of a drain but the last one claims rows.
  | .passing passes found => ∃ drain earlier, drains = drain :: earlier ∧
      current = timeout policy (idleDrains earlier) ∧ (∀ claimed ∈ drain, claimed ≠ 0) ∧
      drain.length = passes ∧ found = decide (drain ≠ [])
  | .stopped => True

/-- What holds after everything that was shown. -/
structure Polls (runner : WakeupRunner) (shown : List Poll) (state : State) : Prop where
  follows : state.backoff.Follows runner.policy
  paced : Paced runner.policy shown
  accounts : state.phase.Accounts runner.policy state.backoff.currentSeconds (drains shown)

theorem Polls.initial (runner : WakeupRunner) (backsOff : BacksOff runner.policy) :
    Polls runner [] (.initial runner) where
  follows := FallbackBackoff.follows_new _
  paced := .nil _
  accounts := ⟨rfl, backsOff.timeout_zero.symm⟩

section Step

variable {runner : WakeupRunner} {state after : State} {label : Label} {shown : List Poll}

theorem polls_of_stepped (moments : List Moment)
    (stepped : step runner state label = some after)
    (history : after.history = moments ++ state.history) :
    polls runner state label =
      label.return?.toList ++ moments.reverse.filterMap Moment.wait? := by
  simp [polls, stepped, added_eq history]

/-- A wait is shown when it begins. -/
theorem Polls.wait (before : State) (follows : before.backoff.Follows runner.policy)
    (paced : Paced runner.policy shown)
    (current : before.backoff.currentSeconds =
      timeout runner.policy (idleDrains (drains shown))) :
    Polls runner (shown ++ [.waits before.backoff.currentSeconds]) (before.waitForWake runner) where
  follows := follows
  paced := by
    apply paced.concat
    rintro wait waits
    obtain rfl := Poll.waits.inj waits
    exact current
  accounts := by
    rw [drains_waits]
    simp only [State.waitForWake]
    split
    · exact ⟨_, rfl, current⟩
    · exact ⟨_, rfl, current⟩

/-- The backoff after a drain is that of the idle drains. -/
theorem current_drained (backsOff : BacksOff runner.policy) {backoff : FallbackBackoff}
    (follows : backoff.Follows runner.policy) {drain : List Nat} {earlier : List (List Nat)}
    (current : backoff.currentSeconds = timeout runner.policy (idleDrains earlier))
    (worked : ∀ claimed ∈ drain, claimed ≠ 0) {claimed : Nat} {found : Bool}
    (last : claimed = 0 ∧ found = decide (drain ≠ []) ∨ claimed ≠ 0 ∧ found = true) :
    (if found then backoff.recordWorkFound else backoff.recordIdle).currentSeconds =
      timeout runner.policy (idleDrains ((drain ++ [claimed]) :: earlier)) := by
  have reset : foundWork (drain ++ [claimed]) = true → found = true →
      (if found then backoff.recordWorkFound else backoff.recordIdle).currentSeconds =
        timeout runner.policy (idleDrains ((drain ++ [claimed]) :: earlier)) := by
    rintro work rfl
    rw [idleDrains_cons, work, if_pos rfl, if_pos rfl, backsOff.timeout_zero]
    exact follows.initial
  cases last with
  | inr last => exact reset (by simp [foundWork, last.1]) last.2
  | inl last =>
      obtain ⟨rfl, rfl⟩ := last
      cases drain with
      | nil =>
          rw [idleDrains_cons]
          exact FallbackBackoff.current_recordIdle backsOff follows current
      | cons first rest =>
          have claims := worked first List.mem_cons_self
          exact reset (by simp [foundWork, claims]) (by simp)

/-- A step that shows nothing. -/
theorem Polls.quiet (held : Polls runner shown state) (moments : List Moment)
    (stepped : Wakeup.step runner state label = some after)
    (history : after.history = moments ++ state.history)
    (noReturn : label.return? = none) (noWait : moments.reverse.filterMap Moment.wait? = [])
    (backoff : after.backoff = state.backoff)
    (accounts : after.phase.Accounts runner.policy state.backoff.currentSeconds (drains shown)) :
    Polls runner (shown ++ polls runner state label) after := by
  have nothing : polls runner state label = [] := by
    rw [polls_of_stepped moments stepped history, noReturn, noWait]
    rfl
  rw [nothing, List.append_nil]
  constructor
  case follows =>
    rw [backoff]
    exact held.follows
  case paced => exact held.paced
  case accounts =>
    rw [backoff]
    exact accounts

/-- Every step of the loop keeps the pace. -/
theorem Polls.step (backsOff : BacksOff runner.policy) (held : Polls runner shown state)
    (stepped : Wakeup.step runner state label = some after) :
    Polls runner (shown ++ polls runner state label) after := by
  have accounts := held.accounts
  cases stepped_of_step stepped with
  | signal source listens => exact held.quiet [.signal source] stepped rfl rfl rfl rfl accounts
  | advance source event ready advanced => exact held.quiet [] stepped rfl rfl rfl rfl accounts
  | connect connecting => exact held.quiet [] stepped rfl rfl rfl rfl accounts
  | refuse connecting => exact held.quiet [] stepped rfl rfl rfl rfl accounts
  | begin created enabled =>
      rw [created] at accounts
      have begun : polls runner state .begin = [.waits state.backoff.currentSeconds] :=
        polls_of_stepped [.waits state.backoff.currentSeconds] stepped rfl
      rw [begun]
      apply Polls.wait state held.follows held.paced
      rw [accounts.1]
      exact accounts.2
  | slept sleeping =>
      rw [sleeping] at accounts
      obtain ⟨earlier, drained, current⟩ := accounts
      exact held.quiet [.pass] stepped rfl rfl rfl rfl
        ⟨[], earlier, drained, current, by simp, rfl, rfl⟩
  | release label waiting released =>
      rw [waiting] at accounts
      have noReturn : label.return? = none := by
        rcases released with rfl | ⟨rfl, _⟩ <;> rfl
      exact held.quiet [] stepped rfl noReturn rfl rfl accounts
  | resume waiting =>
      rw [waiting] at accounts
      exact held.quiet [] stepped rfl rfl rfl rfl accounts
  | gathered gathering finished =>
      rw [gathering] at accounts
      obtain ⟨earlier, drained, current⟩ := accounts
      exact held.quiet [.pass] stepped rfl rfl rfl rfl
        ⟨[], earlier, drained, current, by simp, rfl, rfl⟩
  | raised gathering finished => exact held.quiet [] stepped rfl rfl rfl rfl trivial
  | passed passes found claimed passing worked further =>
      rw [passing] at accounts
      obtain ⟨drain, earlier, drained, current, works, passed, _⟩ := accounts
      have returned : polls runner state (.returned claimed) = [.returned claimed] :=
        polls_of_stepped [.pass] stepped rfl
      rw [returned]
      constructor
      case follows => exact held.follows
      case paced => exact held.paced.concat (by simp)
      case accounts =>
        refine ⟨drain ++ [claimed], earlier, drains_returned drained claimed, current, ?_, ?_, ?_⟩
        · intro other membership
          rcases List.mem_append.mp membership with before | last
          · exact works other before
          · rw [List.mem_singleton.mp last]
            exact worked
        · rw [List.length_append, passed, List.length_singleton]
        · simp
  | drained passes found claimed foundWork passing last =>
      rw [passing] at accounts
      obtain ⟨drain, earlier, drained, current, works, _, same⟩ := accounts
      let before : State := { state with
        backoff := if foundWork then state.backoff.recordWorkFound else state.backoff.recordIdle
        history := .drained foundWork :: state.history }
      have returned : polls runner state (.returned claimed) =
          [.returned claimed] ++ [.waits before.backoff.currentSeconds] :=
        polls_of_stepped [.waits before.backoff.currentSeconds, .drained foundWork] stepped rfl
      have ends : claimed = 0 ∧ foundWork = decide (drain ≠ []) ∨
          claimed ≠ 0 ∧ foundWork = true := by
        rcases last with ⟨none, rfl⟩ | ⟨some, _, work⟩
        · exact .inl ⟨none, same⟩
        · exact .inr ⟨some, work⟩
      have follows : before.backoff.Follows runner.policy := by
        cases foundWork with
        | true => exact held.follows.recordWorkFound
        | false => exact held.follows.recordIdle
      rw [returned, ← List.append_assoc]
      apply Polls.wait before follows
      · apply held.paced.concat
        intro wait same
        cases same
      · rw [drains_returned drained]
        exact current_drained backsOff held.follows current works ends
  | interrupt waits =>
      refine held.quiet [] stepped rfl rfl rfl rfl ?_
      cases phase : state.phase <;> rw [phase] at waits accounts
      case waiting | gathering => exact accounts
      all_goals cases waits
  | stop label idle ended =>
      have noReturn : label.return? = none := by
        rcases ended with rfl | ⟨rfl, _⟩ <;> rfl
      exact held.quiet [] stepped rfl noReturn rfl rfl trivial

/-- Every run of the loop keeps the pace. -/
theorem polls_of_observed (backsOff : BacksOff runner.policy)
    (observed : Machine.Observed (machine runner) Machine.Free (polls runner) (.initial runner)
      shown state) : Polls runner shown state :=
  Machine.observed_invariant (Polls runner) (fun _ stepped held => held.step backsOff stepped)
    observed (.initial runner backsOff)

end Step

end Pactix.Wakeup
