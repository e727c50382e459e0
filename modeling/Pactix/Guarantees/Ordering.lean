import Pactix.Guarantees.Leases

/-!
# Order within an ordering key

What the FIFO gate guarantees when producers commit the rows of a key one after the
other, and what is left of it for other producers.
-/

namespace Pactix.Guarantees

open Foundation Worker
open Queue (Phase)

section Service

variable {Worker Row Ask Summary Arrival Receipt Body : Type} {Reply : Ask → Type}
variable (service : Service Worker Row Ask Summary Arrival Receipt Body Reply)
variable (state : State Worker Row Ask Summary Arrival Receipt Reply)

/-- An earlier row of the same event type and ordering key. -/
def Older (older newer : Row) : Prop :=
  (service.entry older).card.Older (service.entry newer).card

/-- Of the rows of one event type and ordering key at most one is in processing. -/
def InFlightOnce : Prop :=
  ∀ left ∈ state.table, ∀ right ∈ state.table,
    (service.entry left).card.key ≠ none →
    (service.entry left).card.key = (service.entry right).card.key →
    (service.entry left).phase = .processing → (service.entry right).phase = .processing →
      service.store.id left = service.store.id right

instance : Decidable (InFlightOnce service state) :=
  inferInstanceAs (Decidable (∀ left ∈ state.table, ∀ right ∈ state.table,
    (service.entry left).card.key ≠ none →
    (service.entry left).card.key = (service.entry right).card.key →
    (service.entry left).phase = .processing → (service.entry right).phase = .processing →
      service.store.id left = service.store.id right))

/-- Rows are started and given to callbacks only after every older row of their
key. -/
structure KeyOrdered : Prop where
  started : ∀ row ∈ state.table, (service.entry row).phase ≠ .pending →
    ∀ older ∈ state.table, Older service older row →
      (service.entry older).phase.terminal = true
  inFlight : InFlightOnce service state
  asked : ∀ worker query, state.request worker = some (.ask query) →
    ∀ older ∈ state.table, Older service older (service.subject query) →
      (service.entry older).phase.terminal = true

variable {service state}

theorem inFlightOnce_of_exclusive {queue : QueueState Worker Body}
    (simulates : Simulates service state queue) (exclusive : Queue.Exclusive queue) :
    InFlightOnce service state := by
  intro left leftMem right rightMem keyed sameKey leftLent rightLent
  have same := exclusive.at_most_one (simulates.mem_entries leftMem)
    (simulates.mem_entries rightMem) keyed sameKey leftLent rightLent
  rw [← service.refines.id_entry, same, service.refines.id_entry]

variable [DecidableEq Worker] {clock : Int}

theorem keyOrdered_of_path (fifo : ∀ worker, service.query worker = .fifo)
    (path : (machine service).Path (fun state label =>
      Disciplined service state label ∧ Arriving service (Serial service) state label)
      (.initial clock) state) :
    KeyOrdered service state := by
  obtain ⟨queue, simulates, orderly, ordered, exclusive⟩ := ordered_of_path fifo path
  refine ⟨?_, inFlightOnce_of_exclusive simulates exclusive, ?_⟩
  · intro row stored started older olderMem isOlder
    exact ordered.started_last _ (simulates.mem_entries stored) started _
      (simulates.mem_entries olderMem) isOlder
  · intro worker query asks older olderMem isOlder
    exact ordered.held_last worker _ (simulates.mem_held (simulates.asked asks).1) _
      (simulates.mem_entries olderMem) isOlder

theorem inFlightOnce_of_path (fifo : ∀ worker, service.query worker = .fifo)
    (path : (machine service).Path (fun state label =>
      Current state label ∧ Arriving service (Placed service) state label)
      (.initial clock) state) :
    InFlightOnce service state := by
  obtain ⟨queue, simulates, tenure, exclusive⟩ := exclusive_of_path fifo path
  exact inFlightOnce_of_exclusive simulates exclusive

end Service

/-! ## Serial producers -/

/-- With one clock, outcomes recorded under their leases and serial producers, the rows
of a key are started one after the other. -/
theorem serial_producers_ordered {Worker J : Type} [DecidableEq Worker]
    (deployment : Deployment Worker) (clock : Int) :
    (let service := Outbox.service (J := J) deployment
      ∀ state, (machine service).Path (fun state label => Disciplined service state label ∧
        Arriving service (Serial service) state label) (.initial clock) state →
        KeyOrdered service state) ∧
    (let service := Inbox.service (J := J) deployment
        fun (_ : Worker) => .fifoPerOrderingKey
      ∀ state, (machine service).Path (fun state label => Disciplined service state label ∧
        Arriving service (Serial service) state label) (.initial clock) state →
        KeyOrdered service state) :=
  ⟨fun _ => keyOrdered_of_path fun _ => rfl, fun _ => keyOrdered_of_path fun _ => rfl⟩

/-- The older of two rows has failed once and is with a publisher again. -/
def retriedRun : List OutboxLabel :=
  [appending 1 0 m1, appending 2 1 m2, .spawn false,
    publishing false 2, publishing false 3, publishing false 4 (.retryable "busy"),
    publishing false 5, .spawn true, publishing true 99, publishing true 100]

def rehandledRun : List InboxLabel :=
  [receiving 1 0 m1, receiving 2 1 m2, .spawn false,
    handling false 2, handling false 3, handling false 4, handling false 5 (.retryable "busy"),
    handling false 6, .spawn true, handling true 99, handling true 100]

theorem serial_producers_ordered_sample :
    (∃ state, (machine outbox).replay (fun state label => Disciplined outbox state label ∧
        Arriving outbox (Serial outbox) state label) (.initial 0) retriedRun = some state ∧
      state.table.map (·.status) = [.processing, .pending] ∧ KeyOrdered outbox state) ∧
    (∃ state, (machine inbox).replay (fun state label => Disciplined inbox state label ∧
        Arriving inbox (Serial inbox) state label) (.initial 0) rehandledRun = some state ∧
      state.table.map (·.status) = [.processing, .pending] ∧ KeyOrdered inbox state) := by
  have claim := @serial_producers_ordered Bool Unit _ deployment 0
  constructor
  · have path := (machine outbox).path_replay (fun state label => Disciplined outbox state label ∧
        Arriving outbox (Serial outbox) state label)
      (.initial 0) retriedRun (by decide +kernel)
    exact ⟨_, (Option.some_get _).symm, by decide +kernel, claim.1 _ path⟩
  · have path := (machine inbox).path_replay (fun state label => Disciplined inbox state label ∧
        Arriving inbox (Serial inbox) state label)
      (.initial 0) rehandledRun (by decide +kernel)
    exact ⟨_, (Option.some_get _).symm, by decide +kernel, claim.2 _ path⟩

/-! ## Arbitrary producers -/

/-- If no row ties with an unfinished row of its key or arrives before one that is in
processing, then of each key one row at most is in processing. -/
theorem key_exclusion {Worker J : Type} [DecidableEq Worker] (deployment : Deployment Worker)
    (clock : Int) :
    (let service := Outbox.service (J := J) deployment;
      (∀ state, (machine service).Path (fun state label => Disciplined service state label ∧
        Arriving service (Placed service) state label) (.initial clock) state →
        InFlightOnce service state) ∧
      ∀ state, (machine service).Path (fun state label => Current state label ∧
        Arriving service (Placed service) state label) (.initial clock) state →
        InFlightOnce service state) ∧
    (let service := Inbox.service (J := J) deployment
        fun (_ : Worker) => .fifoPerOrderingKey;
      (∀ state, (machine service).Path (fun state label => Disciplined service state label ∧
        Arriving service (Placed service) state label) (.initial clock) state →
        InFlightOnce service state) ∧
      ∀ state, (machine service).Path (fun state label => Current state label ∧
        Arriving service (Placed service) state label) (.initial clock) state →
        InFlightOnce service state) :=
  ⟨⟨fun _ path => inFlightOnce_of_path (fun _ => rfl) (current_of_disciplined path),
      fun _ => inFlightOnce_of_path fun _ => rfl⟩,
    fun _ path => inFlightOnce_of_path (fun _ => rfl) (current_of_disciplined path),
      fun _ => inFlightOnce_of_path fun _ => rfl⟩

/-- A row is overtaken by an older one while both are pending. -/
def overtakingRun : List OutboxLabel :=
  [appending 2 1 m2, appending 1 0 m1, .spawn false,
    publishing false 2, publishing false 3]

def overtakingHandleRun : List InboxLabel :=
  [receiving 2 1 m2, receiving 1 0 m1, .spawn false,
    handling false 2, handling false 3]

theorem key_exclusion_sample :
    (∃ state, (machine outbox).replay (fun state label => Disciplined outbox state label ∧
        Arriving outbox (Placed outbox) state label) (.initial 0) overtakingRun = some state ∧
      state.table.map (·.status) = [.pending, .processing] ∧ InFlightOnce outbox state) ∧
    (∃ state, (machine inbox).replay (fun state label => Current state label ∧
        Arriving inbox (Placed inbox) state label) (.initial 0) overtakingHandleRun =
          some state ∧
      state.table.map (·.status) = [.pending, .processing] ∧ InFlightOnce inbox state) := by
  have claim := @key_exclusion Bool Unit _ deployment 0
  constructor
  · have path := (machine outbox).path_replay (fun state label => Disciplined outbox state label ∧
        Arriving outbox (Placed outbox) state label)
      (.initial 0) overtakingRun (by decide +kernel)
    exact ⟨_, (Option.some_get _).symm, by decide +kernel, claim.1.1 _ path⟩
  · have path := (machine inbox).path_replay (fun state label => Current state label ∧
        Arriving inbox (Placed inbox) state label)
      (.initial 0) overtakingHandleRun (by decide +kernel)
    exact ⟨_, (Option.some_get _).symm, by decide +kernel, claim.2.2 _ path⟩

/-- Two rows of a key with equal `created_at`. -/
def tiedRun : List OutboxLabel :=
  [appending 1 0 m1, appending 2 0 m2, .spawn false,
    publishing false 1, publishing false 2]

/-- A row of a key commits while a later one is in processing. -/
def lateRun : List OutboxLabel :=
  [appending 2 1 m2, .spawn false, publishing false 2, publishing false 3,
    appending 1 0 m1, .spawn true, publishing true 4, publishing true 5]

/-- Ties, and producers that commit late, put two rows of a key in processing. -/
theorem key_exclusion_fails :
    (¬∀ state, (machine outbox).Path (Disciplined outbox) (.initial 0) state →
      InFlightOnce outbox state) ∧
    ∃ state, (machine outbox).replay (Disciplined outbox) (.initial 0) lateRun = some state ∧
      (state.table.map (·.createdAt)).Nodup ∧ ¬InFlightOnce outbox state := by
  constructor
  · intro claim
    have path := (machine outbox).path_replay (Disciplined outbox) (.initial 0) tiedRun
      (by decide +kernel)
    exact absurd (claim _ path) (by decide +kernel)
  · exact ⟨((machine outbox).replay (Disciplined outbox) (.initial 0) lateRun).get
      (by decide +kernel), (Option.some_get _).symm, by decide +kernel, by decide +kernel⟩

end Pactix.Guarantees
