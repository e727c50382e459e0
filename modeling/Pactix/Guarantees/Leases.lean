import Pactix.Inbox.Service
import Pactix.Outbox.Service
import Pactix.Worker.Runs

/-!
# Leases and terminal rows

What a lease protects while everyone keeps to it, and what happens to rows that have
reached a terminal status.
-/

namespace Pactix.Guarantees

open Foundation Worker
open Queue (Phase)

section Service

variable {Worker Row Ask Summary Arrival Receipt Body : Type} {Reply : Ask → Type}
variable [DecidableEq Worker]
variable (service : Service Worker Row Ask Summary Arrival Receipt Body Reply)
variable (state : State Worker Row Ask Summary Arrival Receipt Reply)

/-- At no time from now on do two workers hold one row under leases that both run. -/
def HeldOnce : Prop :=
  ∀ left right, left ≠ right → ∀ leftRecord ∈ (state.process left).held,
    ∀ rightRecord ∈ (state.process right).held,
      service.store.id leftRecord = service.store.id rightRecord →
      ∀ leftLease ∈ service.store.leaseUntil leftRecord,
      ∀ rightLease ∈ service.store.leaseUntil rightRecord,
      ∀ time, state.clock ≤ time →
        ¬(time ≤ leftLease.instant ∧ time ≤ rightLease.instant)

/-- If the worker is about to record an outcome, the row is in processing and carries
the lease of the worker's own claim. -/
def FindsOwnClaim (worker : Worker) : Prop :=
  ∀ id, state.recordsFor worker = some id →
    ∃ record ∈ (state.process worker).held, service.store.id record = id ∧
      ∃ row ∈ state.table, service.store.id row = id ∧
        (service.entry row).phase = .processing ∧
        (service.store.leaseUntil row).map DateTime.instant =
          (service.store.leaseUntil record).map DateTime.instant

/-- A step changes a terminal row only by recording an outcome for it. -/
def ChangedByOutcomes : Prop :=
  ∀ label after, step service state label = some after → ∀ row ∈ state.table,
    (service.entry row).phase.terminal = true →
      row ∈ after.table ∨ ∃ worker context, label = .act worker context ∧
        state.recordsFor worker = some (service.store.id row)

/-- The terminal rows of one state are rows of a later one.  No worker has come to hold a
record of them in between, and a worker that is about to call back about one of them holds a
record from before, and has lost the row to a reclaim. -/
def TerminalRowsStay (later : State Worker Row Ask Summary Arrival Receipt Reply) : Prop :=
  ∀ row ∈ state.table, (service.entry row).phase.terminal = true →
    row ∈ later.table ∧
    (∀ worker, ∀ record ∈ (later.process worker).held,
      service.store.id record = service.store.id row → record ∈ (state.process worker).held) ∧
    ∀ worker query, later.request worker = some (.ask query) →
      service.store.id (service.subject query) = service.store.id row →
      service.subject query ∈ (state.process worker).held ∧
        service.store.id row ∈ (later.process worker).evicted

variable {service state}

theorem heldOnce_of_path {clock : Int}
    (path : (machine service).Path (Disciplined service) (.initial clock) state) :
    HeldOnce service state := by
  obtain ⟨queue, simulates, orderly⟩ := orderly_of_path path
  rintro left right different leftRecord leftHeld rightRecord rightHeld sameId leftLease
    leftLeased rightLease rightLeased time later ⟨leftRuns, rightRuns⟩
  have leased : ∀ record lease, lease ∈ service.store.leaseUntil record →
      (service.entry record).lease = some lease.instant := by
    intro record lease membership
    rw [service.refines.lease_entry, Option.mem_def.mp membership, Option.map_some]
  apply different
  apply orderly.exclusive (simulates.mem_held leftHeld) (simulates.mem_held rightHeld)
    (by rw [service.refines.id_entry, service.refines.id_entry, sameId])
    (leased _ _ leftLeased) (leased _ _ rightLeased)
  · rw [simulates.clock]
    exact later.trans leftRuns
  · rw [simulates.clock]
    exact later.trans rightRuns

theorem findsOwnClaim_of_path {clock : Int}
    (path : (machine service).Path (Disciplined service) (.initial clock) state)
    {worker : Worker} {context : Context Row Ask Reply}
    (disciplined : Disciplined service state (.act worker context)) :
    FindsOwnClaim service state worker := by
  intro id records
  obtain ⟨queue, simulates, orderly⟩ := orderly_of_path path
  obtain ⟨record, rest, row, held, sameId, stored, viewed, processing⟩ :=
    simulates.record_meets orderly.tenure records
      (simulates.kept orderly.punctual disciplined records)
  refine ⟨record, by rw [held]; exact List.mem_cons_self, sameId, row, stored, ?_, processing, ?_⟩
  · rw [← service.refines.id_entry, viewed, service.refines.id_entry, sameId]
  · rw [← service.refines.lease_entry, viewed, service.refines.lease_entry]

theorem changedByOutcomes_of_path {clock : Int}
    (path : (machine service).Path Machine.Free (.initial clock) state) :
    ChangedByOutcomes service state := by
  obtain ⟨queue, simulates, _⟩ := evidenced_of_path path
  intro label after stepped row stored terminal
  exact simulates.terminal_step stepped stored terminal

theorem terminalRowsStay_of_path {clock : Int}
    {later : State Worker Row Ask Summary Arrival Receipt Reply}
    (path : (machine service).Path Current (.initial clock) state)
    (further : (machine service).Path Current state later) :
    TerminalRowsStay service state later := by
  obtain ⟨queue, simulates, tenure⟩ :=
    (Simulates.initial clock).tenure_of_path (.initial clock) path
  intro row stored terminal
  obtain ⟨stays, earlier⟩ := simulates.absorbing tenure further stored terminal
  refine ⟨stays, earlier, fun worker query asks sameId => ?_⟩
  obtain ⟨queueLater, simulated, tenured⟩ := simulates.tenure_of_path tenure further
  exact ⟨earlier worker _ (simulated.asked asks).1 sameId,
    simulated.asked_evicted tenured asks stays terminal sameId⟩

end Service

/-! ## A small deployment -/

/-- Two attempts for every message, and leases of thirty seconds. -/
def twoAttempts : PactixConfig := { retryPolicy := { maxAttempts := 2 } }

/-- Two workers with this configuration. -/
def deployment : Deployment Bool where
  config _ := twoAttempts
  dialect := .postgresql
  floatMax := 2 ^ 1024

/-- One second on the clock. -/
def second : Int := 1000000

def envelope (messageId : String) (eventType : String := "order")
    (valid : MessageMetadata.validate { messageId, eventType, orderingKey := "customer" } =
      .ok () := by decide) : MessageEnvelope Unit :=
  ⟨_, (), valid⟩

def m1 : MessageEnvelope Unit := envelope "m1"

def m2 : MessageEnvelope Unit := envelope "m2"

/-- A message of another event type. -/
def refund : MessageEnvelope Unit := envelope "m1" "refund"

/-- Two outbox workers. -/
abbrev outbox := Outbox.service (J := Unit) deployment

abbrev OutboxLabel := Label Bool (Outbox.OutboxMessageRecord Unit)
  (Outbox.OutboxMessageRecord Unit) (Outbox.Arrival Unit) fun _ => Outbox.PublishOutcome

/-- A call of an outbox worker, at a time in seconds. -/
def publishing (worker : Bool) (time : Int) (outcome : Outbox.PublishOutcome := .published) :
    OutboxLabel :=
  .act worker { time := time * second, choices := .plain, reply := fun _ => .ok outcome }

def appending (id : UUID) (time : Int) (envelope : MessageEnvelope Unit) : OutboxLabel :=
  .receive ⟨id, time * second, envelope, twoAttempts⟩

/-- Two FIFO inbox workers. -/
abbrev inbox := Inbox.service (J := Unit) deployment fun (_ : Bool) => .fifoPerOrderingKey

abbrev InboxLabel := Label Bool (Inbox.InboxMessageRecord Unit) (Inbox.Query Unit)
  (Inbox.Arrival Unit) Inbox.Query.Reply

/-- What fresh events get from an inbox without further filters. -/
def answering (outcome : Inbox.HandleOutcome) :
    (query : Inbox.Query Unit) → Except Error query.Reply
  | .staleEventFilter _ => .ok .fresh
  | .idempotencyHook _ => .ok .process
  | .handler _ => .ok outcome

/-- A call of an inbox worker, at a time in seconds. -/
def handling (worker : Bool) (time : Int) (outcome : Inbox.HandleOutcome := .processed) :
    InboxLabel :=
  .act worker { time := time * second, choices := .plain, reply := answering outcome }

def receiving (id : UUID) (time : Int) (envelope : MessageEnvelope Unit)
    (source : String := "shop") : InboxLabel :=
  .receive ⟨id, time * second, source, envelope, twoAttempts⟩

/-! ## Lease exclusivity -/

/-- With one clock, and every outcome recorded under its lease, a row is held once and
every recording finds the row as its worker claimed it. -/
theorem lease_exclusivity {Worker J : Type} [DecidableEq Worker] (deployment : Deployment Worker)
    (mode : Worker → Inbox.Mode) (clock : Int) :
    (let service := Outbox.service (J := J) deployment
      ∀ state, (machine service).Path (Disciplined service) (.initial clock) state →
        HeldOnce service state ∧
        ∀ worker context, Disciplined service state (.act worker context) →
          FindsOwnClaim service state worker) ∧
    (let service := Inbox.service (J := J) deployment mode
      ∀ state, (machine service).Path (Disciplined service) (.initial clock) state →
        HeldOnce service state ∧
        ∀ worker context, Disciplined service state (.act worker context) →
          FindsOwnClaim service state worker) :=
  ⟨fun _ path => ⟨heldOnce_of_path path, fun _ _ => findsOwnClaim_of_path path⟩,
    fun _ path => ⟨heldOnce_of_path path, fun _ _ => findsOwnClaim_of_path path⟩⟩

/-- One worker has published a row and is about to record it, the other has tried to
claim the row in vain. -/
def publishRun : List OutboxLabel :=
  [appending 1 0 m1, .spawn false, publishing false 1, publishing false 2,
    publishing false 3, .spawn true, publishing true 4, publishing true 5]

def handleRun : List InboxLabel :=
  [receiving 1 0 m1, .spawn false, handling false 1, handling false 2,
    handling false 3, handling false 3, .spawn true, handling true 4, handling true 5]

theorem lease_exclusivity_sample :
    (∃ state, (machine outbox).replay (Disciplined outbox) (.initial 0) publishRun = some state ∧
      state.recordsFor false = some 1 ∧ HeldOnce outbox state ∧
      FindsOwnClaim outbox state false) ∧
    (∃ state, (machine inbox).replay (Disciplined inbox) (.initial 0) handleRun = some state ∧
      state.recordsFor false = some 1 ∧ HeldOnce inbox state ∧
      FindsOwnClaim inbox state false) := by
  have claim := lease_exclusivity (J := Unit) deployment
    (fun (_ : Bool) => .fifoPerOrderingKey) 0
  constructor
  · have path := (machine outbox).path_replay (Disciplined outbox) (.initial 0) publishRun
      (by decide +kernel)
    obtain ⟨once, finds⟩ := claim.1 _ path
    exact ⟨_, (Option.some_get _).symm, by decide +kernel, once,
      finds false { time := 6 * second, choices := .plain, reply := fun _ => .ok .published }
        (by decide +kernel)⟩
  · have path := (machine inbox).path_replay (Disciplined inbox) (.initial 0) handleRun
      (by decide +kernel)
    obtain ⟨once, finds⟩ := claim.2 _ path
    exact ⟨_, (Option.some_get _).symm, by decide +kernel, once,
      finds false { time := 6 * second, choices := .plain, reply := answering .processed }
        (by decide +kernel)⟩

/-! ## Terminal rows -/

/-- A terminal row is changed by recording an outcome for it and by nothing else, and
while no worker records an outcome for a row that was reclaimed from it, by nothing
at all. -/
theorem terminal_rows_absorb {Worker J : Type} [DecidableEq Worker] (deployment : Deployment Worker)
    (mode : Worker → Inbox.Mode) (clock : Int) :
    (let service := Outbox.service (J := J) deployment;
      (∀ state, (machine service).Path Machine.Free (.initial clock) state →
        ChangedByOutcomes service state) ∧
      ∀ state later, (machine service).Path Current (.initial clock) state →
        (machine service).Path Current state later → TerminalRowsStay service state later) ∧
    (let service := Inbox.service (J := J) deployment mode;
      (∀ state, (machine service).Path Machine.Free (.initial clock) state →
        ChangedByOutcomes service state) ∧
      ∀ state later, (machine service).Path Current (.initial clock) state →
        (machine service).Path Current state later → TerminalRowsStay service state later) :=
  ⟨⟨fun _ => changedByOutcomes_of_path, fun _ _ => terminalRowsStay_of_path⟩,
    fun _ => changedByOutcomes_of_path, fun _ _ => terminalRowsStay_of_path⟩

/-- The second worker has reclaimed the row from the first one and published it.  The first
one is about to call its publisher. -/
def published :=
  ((machine outbox).replay Current (.initial 0) [appending 1 0 m1, .spawn false,
    publishing false 1, publishing false 2, .spawn true, publishing true 40, publishing true 41,
    publishing true 42, publishing true 43]).get (by decide +kernel)

/-- The first worker has recorded its outcome. -/
def processed :=
  ((machine inbox).replay Current (.initial 0) (handleRun ++ [handling false 6])).get
    (by decide +kernel)

theorem terminal_rows_absorb_sample :
    (ChangedByOutcomes outbox published ∧
      ∃ later, (machine outbox).replay Current published [.spawn true, publishing true 99,
        publishing true 99] = some later ∧ later.table.map (·.status) = [.published] ∧
        ((later.request false).bind Call.asked).map (·.id) = some 1 ∧
        (later.process false).evicted = [1] ∧ TerminalRowsStay outbox published later) ∧
    (ChangedByOutcomes inbox processed ∧
      ∃ later, (machine inbox).replay Current processed [.spawn false, handling false 99,
        handling false 99] = some later ∧ TerminalRowsStay inbox processed later) := by
  have claim := terminal_rows_absorb (J := Unit) deployment
    (fun (_ : Bool) => .fifoPerOrderingKey) 0
  have outboxPath : (machine outbox).Path Current (.initial 0) published :=
    Machine.path_replay ..
  have inboxPath : (machine inbox).Path Current (.initial 0) processed :=
    Machine.path_replay ..
  refine ⟨⟨claim.1.1 _ (Machine.path_mono (fun _ _ _ => trivial) outboxPath), _,
      (Option.some_get (by decide +kernel)).symm, ?_⟩,
    claim.2.1 _ (Machine.path_mono (fun _ _ _ => trivial) inboxPath), _,
      (Option.some_get (by decide +kernel)).symm, ?_⟩
  · exact ⟨by decide +kernel, by decide +kernel, by decide +kernel,
      claim.1.2 _ _ outboxPath (Machine.path_replay ..)⟩
  · exact claim.2.2 _ _ inboxPath (Machine.path_replay ..)

/-- A publisher takes longer than the lease.  Meanwhile another worker publishes the row,
and the first one comes back with a failure. -/
def overtakenRun : List OutboxLabel :=
  [appending 1 0 m1, .spawn false, publishing false 1, publishing false 2,
    .spawn true, publishing true 40, publishing true 41, publishing true 42, publishing true 43,
    publishing false 44 (.terminal "timeout")]

/-- The row is published, and the late failure is about to be recorded. -/
def overtaken :=
  ((machine outbox).replay Clocked (.initial 0) overtakenRun).get (by decide +kernel)

/-- Without the restriction a published row does not stay published. -/
theorem terminal_rows_overwritten :
    ¬∀ state later, (machine outbox).Path Clocked (.initial 0) state →
      (machine outbox).Path Clocked state later →
      ∀ row ∈ state.table, row.status = .published ∨ row.status = .failed →
        ∃ kept ∈ later.table, kept.id = row.id ∧ kept.status = row.status ∧
          kept.attempts = row.attempts ∧ kept.lastError = row.lastError ∧
          kept.publishedAt = row.publishedAt := by
  intro claim
  have path : (machine outbox).Path Clocked (.initial 0) overtaken := Machine.path_replay ..
  have further := (machine outbox).path_replay Clocked overtaken [publishing false 45]
    (by decide +kernel)
  exact absurd (claim _ _ path further) (by decide +kernel)

end Pactix.Guarantees
