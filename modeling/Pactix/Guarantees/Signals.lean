import Pactix.Guarantees.Fairness
import Pactix.Guarantees.Wakeups
import Pactix.Wakeup.Attending

/-!
# Signals and rows

What a signal does for the rows that are committed by then, while other workers claim, publish
and die.
-/

namespace Pactix.Outbox

open Worker

/-- The summary of an outbox pass counts what its claim has got. -/
theorem keeps_counting_deliver {J : Type} (summary : RunSummary)
    (rows : List (OutboxMessageRecord J)) :
    (Wakeup.counting RunSummary.claimed).Keeps (deliver summary rows) (some summary.claimed) := by
  induction rows generalizing summary with
  | nil =>
      intro result same
      rw [Except.ok.inj same]
  | cons row rows ih =>
      intro reply
      refine ⟨_, .other _ _ nofun, ?_⟩
      cases reply with
      | error error => exact nofun
      | ok outcome =>
          obtain ⟨kind, message⟩ := outcome
          cases kind with
          | published | terminal => exact fun _ => ⟨_, .other _ _ nofun, ih _⟩
          | retryable =>
              intro action
              refine ⟨_, .other _ _ nofun, ?_⟩
              cases action with
              | retryScheduled => exact ih _
              | failed => exact ih _

theorem keeps_counting {J : Type} :
    (Wakeup.counting RunSummary.claimed).Keeps (runOnce (J := J)) none :=
  fun _ => ⟨_, .other _ _ nofun, fun answer =>
    ⟨_, .claim _ _ answer, keeps_counting_deliver _ answer.2⟩⟩

end Pactix.Outbox

namespace Pactix.Guarantees

open Foundation Worker
open Outbox (OutboxMessageRecord PublishOutcome RunSummary)
open Wakeup (LookedAfter Occurrence Serving ServingLabel Since WakeupRunner)

/-- Every signal has been answered, unless the loop has ended, or is in a drain, or has
another signal that makes it start one. -/
def SignalsAnswered {Worker J : Type} (deployment : Deployment Worker)
    (runner : WakeupRunner) (notes : List (Occurrence (OutboxMessageRecord J)))
    (loop : Wakeup.State) : Prop :=
  loop.phase = .stopped ∨ loop.phase.drains = true ∨
    (∃ source ∈ runner.sources, (loop.event source).Signalled) ∨
    ∀ source table later, Since notes (.signal source table) later →
      LookedAfter (Outbox.service deployment) table later

/-- Nothing that is committed before a signal is left behind: a later claim of the loop gets
nothing though it has met every such row, or a drain is cut off after its last pass. -/
theorem signals_answered {Worker J : Type} [DecidableEq Worker] (deployment : Deployment Worker)
    (runner : WakeupRunner) (own : Worker)
    (positive : 0 < (deployment.config own).outboxBatchSize) (clock : Int)
    {notes : List (Occurrence (OutboxMessageRecord J))}
    {state : Serving Worker (OutboxMessageRecord J) (OutboxMessageRecord J) RunSummary
      (Outbox.Arrival J) (OutboxMessageRecord J) fun _ => PublishOutcome}
    (observed :
      (Serving.machine runner (Outbox.service deployment) own
          RunSummary.claimed).Observed Machine.Free
        (Serving.occurrences runner (Outbox.service deployment) own)
        (.initial runner clock) notes state) :
    SignalsAnswered deployment runner notes state.loop := by
  have attending := Wakeup.attending_of_observed Outbox.keeps_counting
    (Outbox.store_takesOldest deployment) positive observed
  by_cases stopped : state.loop.phase = .stopped
  · exact .inl stopped
  by_cases draining : state.loop.phase.drains = true
  · exact .inr (.inl draining)
  rcases attending.attentive.kept stopped with served | signalled
  · refine .inr (.inr (.inr fun source table later since => ?_))
    have followed := attending.signals source table later since
    -- A signal that is served has seen a pass start since.
    have passed : .pass ∈ later := by
      by_contra unpassed
      exact followed.unserved unpassed served
    rcases followed.answered passed with answered | ended | ⟨drains, _⟩
    · exact answered
    · exact absurd ended stopped
    · exact absurd drains draining
  · exact .inr (.inr (.inl signalled))

abbrev OutboxServingLabel := ServingLabel Bool (OutboxMessageRecord Unit)
  (OutboxMessageRecord Unit) (Outbox.Arrival Unit) fun _ => PublishOutcome

/-- From a wait to the start of a drain. -/
def wakes (source other : Wakeup.Source) : List OutboxServingLabel :=
  [.loop (.advance source), .loop .complete, .loop .resume, .loop (.advance other),
    .loop .gathered]

/-- A signal for an order, and one for a second order while the first is published. -/
def twoSignals : List OutboxServingLabel :=
  [.loop .begin, .loop .connect, .loop (.advance .listener), .loop (.advance .localWakeup),
      .workers (appending 1 0 m1), .loop (.signal .localWakeup)] ++
    wakes .localWakeup .listener ++
    [.workers (publishing false 1), .workers (publishing false 1),
      .workers (appending 2 2 m2), .loop (.signal .listener),
      .workers (publishing false 3), .workers (publishing false 3), .loop (.returned 1),
      .workers (publishing false 4), .workers (publishing false 4),
      .workers (publishing false 5), .workers (publishing false 5), .loop (.returned 1),
      .workers (publishing false 6), .workers (publishing false 6), .loop (.returned 0),
      .loop (.advance .localWakeup)] ++
    wakes .listener .localWakeup ++
    [.workers (publishing false 7), .workers (publishing false 7), .loop (.returned 0),
      .loop (.advance .localWakeup), .loop (.advance .listener)]

def answeredSignals :=
  (Machine.replayNoting (Serving.machine listening outbox false RunSummary.claimed) Machine.Free
    (Serving.occurrences listening outbox false) [] (.initial listening 0) twoSignals).get
      (by decide +kernel)

theorem signals_answered_sample :
    answeredSignals.2.loop.phase = .waiting false ∧
      (answeredSignals.2.workers.table.map fun row => row.status) = [.published, .published] ∧
      ∀ source table later, Since answeredSignals.1 (.signal source table) later →
        LookedAfter outbox table later := by
  have observed := (Serving.machine listening outbox false
    RunSummary.claimed).observed_replay Machine.Free
      (Serving.occurrences listening outbox false) (.initial listening 0) twoSignals
      (by decide +kernel)
  have waiting : answeredSignals.2.loop.phase = .waiting false := by decide +kernel
  refine ⟨waiting, by decide +kernel, ?_⟩
  have claim := signals_answered (J := Unit) deployment listening false (by decide) 0 observed
  rcases claim with stopped | draining | ⟨source, _, signalled⟩ | answered
  · exact absurd (waiting.symm.trans stopped) nofun
  · exact absurd draining (by decide +kernel)
  · simp only [Foundation.Event.Signalled] at signalled
    exact absurd signalled (by cases source <;> decide +kernel)
  · exact answered

end Pactix.Guarantees
