import Pactix.Worker.Service

/-!
# The protocol of a pass

What a pass may do next depends on what it has done: it claims with its reading of
the clock, asks callbacks about the record at the head of its batch only, and
records exactly the verdict that the last reply settled, before anything else.
-/

namespace Pactix.Worker

open Foundation Queue

variable {Worker Row Ask Summary Arrival Receipt Body : Type} {Reply : Ask → Type}
variable (service : Service Worker Row Ask Summary Arrival Receipt Body Reply)

/-- The call records the verdict about the head of the batch. -/
def Settles (worker : Worker) (held rest : List Row) (decided : Option (Row × Verdict))
    (request : Call Ask) : Prop :=
  ∃ row verdict, held = row :: rest ∧ decided = some (row, verdict) ∧
    request = (service.routine worker).recording row verdict

/-- A program that keeps to the protocol, from a point at which the worker has read
the clock as `reading`, still has to record outcomes for `held`, and has come to
the verdict `decided` about the first of them.  It raises only what a callback
raises. -/
def Conforms (worker : Worker) : Option DateTime → List Row → Option (Row × Verdict) →
    Pass Row Ask Reply Summary → Prop
  | _, held, _, .done result => held = [] ∧ ∃ summary, result = .ok summary
  | _, held, decided, .call .utcnow resume =>
      decided = none ∧ ∀ now, Conforms worker (some now) held none (resume now)
  | reading, held, _, .call (.reclaimAndClaim query now) resume =>
      reading = some now ∧ held = [] ∧ query = service.query worker ∧
        ∀ answer : Nat × List Row, Conforms worker reading answer.2 none (resume answer)
  | reading, held, decided, .call (.ask query) resume =>
      decided = none ∧ service.uses worker query ∧
        held.head? = some (service.subject query) ∧
        (∀ error, resume (.error error) = .done (.error error)) ∧
        ∀ reply, Conforms worker reading held
          ((service.judge query reply).map fun verdict => (service.subject query, verdict))
          (resume (.ok reply))
  | reading, held, decided, .call (.markDone id) resume =>
      ∃ rest, Settles service worker held rest decided (.markDone id) ∧
        ∀ answer, Conforms worker reading rest none (resume answer)
  | reading, held, decided, .call (.handleRetryableFailure id attempts maxAttempts error) resume =>
      ∃ rest, Settles service worker held rest decided
          (.handleRetryableFailure id attempts maxAttempts error) ∧
        ∀ answer, Conforms worker reading rest none (resume answer)
  | reading, held, decided, .call (.markFailed id error) resume =>
      ∃ rest, Settles service worker held rest decided (.markFailed id error) ∧
        ∀ answer, Conforms worker reading rest none (resume answer)

variable {service} {worker : Worker} {reading : Option DateTime}

/-- Recording the verdict is the next thing to do. -/
theorem conforms_record {row : Row} {rest : List Row} {verdict : Verdict}
    {continuation : Recorded → Pass Row Ask Reply Summary}
    (next : ∀ recorded, Conforms service worker reading rest none (continuation recorded)) :
    Conforms service worker reading (row :: rest) (some (row, verdict))
      ((service.routine worker).record row verdict continuation) := by
  cases verdict with
  | done => exact ⟨rest, ⟨row, .done, rfl, rfl, rfl⟩, fun _ => next .done⟩
  | terminal message =>
      exact ⟨rest, ⟨row, .terminal message, rfl, rfl, rfl⟩, fun _ => next .failed⟩
  | retryable message =>
      refine ⟨rest, ⟨row, .retryable message, rfl, rfl, rfl⟩, fun action => ?_⟩
      cases action with
      | retryScheduled => exact next .retryScheduled
      | failed => exact next .failed

/-- Asking the callbacks of a sound inquiry keeps to the protocol. -/
theorem conforms_pursue {row : Row} {rest : List Row}
    {continuation : Verdict → (Recorded → Summary → Summary) → Pass Row Ask Reply Summary}
    (next : ∀ verdict tally, Conforms service worker reading (row :: rest)
      (some (row, verdict)) (continuation verdict tally))
    {inquiry : Inquiry Ask Reply Summary} {decided : Option Verdict}
    (sound : inquiry.Sound service.judge
      (fun query => service.subject query = row ∧ service.uses worker query) decided) :
    Conforms service worker reading (row :: rest) (decided.map fun verdict => (row, verdict))
      (inquiry.pursue continuation) := by
  induction inquiry generalizing decided with
  | settled verdict tally =>
      simp only [Inquiry.Sound] at sound
      subst sound
      exact next verdict tally
  | ask query rest ih =>
      obtain ⟨undecided, ⟨about, uses⟩, replies⟩ := sound
      subst undecided
      simp only [Inquiry.pursue, Conforms, Option.map_none, about, List.head?_cons]
      exact ⟨trivial, uses, trivial, fun _ => trivial, fun reply => ih reply (replies reply)⟩

theorem conforms_deliver (summary : Summary) (rows : List Row) :
    Conforms service worker reading rows none
      ((service.routine worker).deliver summary rows) := by
  induction rows generalizing summary with
  | nil => exact ⟨rfl, summary, rfl⟩
  | cons row rows ih =>
      exact conforms_pursue
        (fun verdict tally => conforms_record fun recorded => ih (tally recorded summary))
        (service.inquire_sound worker row)

/-- Every pass keeps to the protocol. -/
theorem conforms_runOnce : Conforms service worker none [] none (service.runOnce worker) := by
  rw [service.runOnce_eq]
  exact ⟨rfl, fun now => ⟨rfl, rfl, rfl, fun answer => conforms_deliver _ answer.2⟩⟩

end Pactix.Worker
