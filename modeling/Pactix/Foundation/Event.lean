import Mathlib.Logic.Basic

/-!
# An event and the task that waits for it

A flag that is set from outside, and at most one task that waits for the flag and clears it.
Tasks switch only at awaits; cancelling a task that has not resumed raises at its await.
-/

namespace Pactix.Foundation

/-- How a task has ended. -/
inductive Outcome where
  | returned
  | raised
  | cancelled
  deriving DecidableEq, Repr

/-- A task that waits for an event. -/
inductive Waiter where
  /-- It has not come to look at the flag yet. -/
  | starting
  | suspended
  /-- Its future is done, and it has not resumed yet. -/
  | woken
  | cancelled
  | finished (outcome : Outcome)
  deriving DecidableEq, Repr

namespace Waiter

/-- Setting the flag wakes a suspended task. -/
def wake : Waiter → Waiter
  | suspended => woken
  | waiter => waiter

/-- A task that is not done will raise `CancelledError` at its await. -/
def cancel : Waiter → Waiter
  | finished outcome => finished outcome
  | _ => cancelled

def isFinished : Waiter → Bool
  | finished _ => true
  | _ => false

end Waiter

/-- The flag of an event, and the task that waits for it. -/
structure Event where
  isSet : Bool := false
  waiter : Option Waiter := none
  deriving DecidableEq, Repr

namespace Event

/-- `Event.set`. -/
def set (event : Event) : Event :=
  if event.isSet then event else { isSet := true, waiter := event.waiter.map Waiter.wake }

/-- Create the task. -/
def spawn (event : Event) : Event := { event with waiter := some .starting }

/-- Let the task run.  `await event.wait()` passes at once when the flag is set; what
follows it is `event.clear()`. -/
def advance (event : Event) : Option Event :=
  match event.waiter with
  | some .starting =>
      if event.isSet then
        some { isSet := false, waiter := some (.finished .returned) }
      else
        some { event with waiter := some .suspended }
  | some .woken => some { isSet := false, waiter := some (.finished .returned) }
  | some .cancelled => some { event with waiter := some (.finished .cancelled) }
  | some .suspended | some (.finished _) | none => none

/-- The task raises before it looks at the flag. -/
def fail (event : Event) : Event := { event with waiter := some (.finished .raised) }

/-- `Task.cancel`. -/
def cancel (event : Event) : Event := { event with waiter := event.waiter.map Waiter.cancel }

/-- Forget the task. -/
def collect (event : Event) : Event := { event with waiter := none }

/-- The flag has been set, and nobody has been told except by a task that has returned. -/
def Signalled (event : Event) : Prop :=
  event.isSet = true ∨ event.waiter = some (.finished .returned)

/-- No task sleeps while the flag is set. -/
def Awake (event : Event) : Prop :=
  event.isSet = true → event.waiter ≠ some .suspended

/-- The task, if there is one, is done or will be with its next step. -/
def Ending (event : Event) : Prop :=
  ∀ waiter ∈ event.waiter, waiter = .cancelled ∨ waiter.isFinished = true

/-- The flag is not set, and the task has neither been woken nor been cancelled. -/
def Unstirred (event : Event) : Prop :=
  event.isSet = false ∧ ∀ waiter ∈ event.waiter,
    waiter = .starting ∨ waiter = .suspended ∨ waiter = .finished .raised

instance (event : Event) : Decidable event.Unstirred :=
  inferInstanceAs (Decidable (_ ∧ ∀ waiter ∈ event.waiter, _))

/-- The steps that the task still has before it, at most. -/
def remaining (event : Event) : Nat :=
  match event.waiter with
  | some .starting => 3
  | some .suspended => 2
  | some .woken | some .cancelled => 1
  | some (.finished _) | none => 0

variable {event after : Event}

theorem signalled_set (event : Event) : event.set.Signalled := by
  unfold set
  split
  next isSet => exact .inl isSet
  next => exact .inl rfl

/-- What a step of the task can be. -/
inductive Advanced (event : Event) : Event → Prop where
  | returned
      (ready : event.waiter = some .woken ∨ event.waiter = some .starting ∧ event.isSet = true) :
      Advanced event { isSet := false, waiter := some (.finished .returned) }
  | suspended (starting : event.waiter = some .starting) (unset : event.isSet = false) :
      Advanced event { event with waiter := some .suspended }
  | cancelled (cancelled : event.waiter = some .cancelled) :
      Advanced event { event with waiter := some (.finished .cancelled) }

theorem advanced_of_advance (advanced : event.advance = some after) : event.Advanced after := by
  unfold advance at advanced
  split at advanced
  next starting =>
    split at advanced
    next isSet =>
      obtain rfl := Option.some.inj advanced
      exact .returned (.inr ⟨starting, isSet⟩)
    next unset =>
      obtain rfl := Option.some.inj advanced
      exact .suspended starting (by simpa using unset)
  next woken =>
    obtain rfl := Option.some.inj advanced
    exact .returned (.inl woken)
  next cancelled =>
    obtain rfl := Option.some.inj advanced
    exact .cancelled cancelled
  all_goals simp at advanced

/-- The task clears the flag only as it returns. -/
theorem Signalled.advance (signalled : event.Signalled) (advanced : event.advance = some after) :
    after.Signalled := by
  cases advanced_of_advance advanced with
  | returned => exact .inr rfl
  | suspended starting unset => simp [Signalled, starting, unset] at signalled
  | cancelled cancelled =>
      left
      simpa [Signalled, cancelled] using signalled

/-- Cancelling never clears the flag, and does not touch a task that has returned. -/
theorem Signalled.cancel (signalled : event.Signalled) : event.cancel.Signalled := by
  cases signalled with
  | inl isSet => exact .inl isSet
  | inr returned =>
      right
      simp only [Event.cancel, returned]
      rfl

theorem awake_set (event : Event) (awake : event.Awake) : event.set.Awake := by
  unfold set
  split
  · exact awake
  · intro _
    cases event.waiter with
    | none => simp
    | some waiter => cases waiter <;> simp [Waiter.wake]

theorem awake_spawn (event : Event) : event.spawn.Awake := by
  intro _
  simp [spawn]

theorem awake_collect (event : Event) : event.collect.Awake := by
  intro _
  simp [collect]

theorem awake_fail (event : Event) : event.fail.Awake := by
  intro _
  simp [fail]

theorem awake_cancel (event : Event) : event.cancel.Awake := by
  intro _
  cases waiting : event.waiter with
  | none => simp [cancel, waiting]
  | some waiter => cases waiter <;> simp [cancel, waiting, Waiter.cancel]

theorem awake_advance (advanced : event.advance = some after) : after.Awake := by
  cases advanced_of_advance advanced with
  | returned | cancelled => simp [Awake]
  | suspended starting unset => simp [Awake, unset]

@[simp] theorem waiter_set_eq_none : event.set.waiter = none ↔ event.waiter = none := by
  unfold set
  split <;> simp

@[simp] theorem waiter_cancel_eq_none : event.cancel.waiter = none ↔ event.waiter = none := by
  simp [cancel]

theorem waiter_advance (advanced : event.advance = some after) :
    event.waiter ≠ none ∧ after.waiter ≠ none := by
  cases advanced_of_advance advanced with
  | returned ready => rcases ready with woken | ⟨starting, _⟩ <;> simp [*]
  | suspended starting => simp [starting]
  | cancelled cancelled => simp [cancelled]

/-- Unless it is suspended or done, the task can run. -/
theorem advance_isSome {waiter : Waiter} (present : event.waiter = some waiter)
    (awake : waiter ≠ .suspended) (running : waiter.isFinished = false) :
    event.advance.isSome = true := by
  unfold advance
  cases waiter with
  | starting =>
      simp only [present]
      split <;> rfl
  | woken | cancelled => simp [present]
  | suspended => exact absurd rfl awake
  | finished outcome => simp [Waiter.isFinished] at running

theorem ending_cancel (event : Event) : event.cancel.Ending := by
  intro waiter present
  obtain ⟨before, _, rfl⟩ := Option.map_eq_some_iff.mp present
  cases before <;> simp [Waiter.cancel, Waiter.isFinished]

theorem Ending.set (ending : event.Ending) : event.set.Ending := by
  unfold Event.set
  split
  · exact ending
  · intro waiter present
    obtain ⟨before, was, rfl⟩ := Option.map_eq_some_iff.mp present
    rcases ending before was with rfl | finished
    · exact .inl rfl
    · cases before with
      | finished outcome => exact .inr rfl
      | starting | suspended | woken | cancelled => simp [Waiter.isFinished] at finished

theorem Ending.advance (ending : event.Ending) (advanced : event.advance = some after) :
    after.Ending := by
  intro waiter present
  cases advanced_of_advance advanced with
  | returned | cancelled =>
      obtain rfl := Option.some.inj present
      exact .inr rfl
  | suspended starting => simpa [Waiter.isFinished] using ending _ starting

/-- A task that nobody stirs goes to sleep at most. -/
theorem Unstirred.advance (unstirred : event.Unstirred) (advanced : event.advance = some after) :
    after.Unstirred := by
  obtain ⟨unset, calm⟩ := unstirred
  cases advanced_of_advance advanced with
  | returned ready =>
      rcases ready with woken | ⟨_, isSet⟩
      · simpa using calm _ woken
      · simp [unset] at isSet
  | suspended starting => simp [Unstirred, unset]
  | cancelled cancelled => simpa using calm _ cancelled

theorem Unstirred.fail (unstirred : event.Unstirred) : event.fail.Unstirred := by
  simp [Unstirred, Event.fail, unstirred.1]

/-! ## How long a task can go on -/

theorem remaining_le (event : Event) : event.remaining ≤ 3 := by
  unfold remaining
  split <;> decide

theorem remaining_advance (advanced : event.advance = some after) :
    after.remaining < event.remaining := by
  cases advanced_of_advance advanced with
  | suspended starting => simp [remaining, starting]
  | cancelled cancelled => simp [remaining, cancelled]
  | returned ready =>
      rcases ready with woken | ⟨starting, _⟩
      · simp [remaining, woken]
      · simp [remaining, starting]

theorem remaining_set (event : Event) : event.set.remaining ≤ event.remaining := by
  unfold set
  split
  · exact Nat.le_refl _
  · cases waiting : event.waiter with
    | none => simp [remaining]
    | some waiter => cases waiter <;> simp [remaining, waiting, Waiter.wake]

theorem remaining_cancel (event : Event) : event.cancel.remaining ≤ event.remaining := by
  cases waiting : event.waiter with
  | none => simp [remaining, cancel, waiting]
  | some waiter => cases waiter <;> simp [remaining, cancel, waiting, Waiter.cancel]

end Event

end Pactix.Foundation
