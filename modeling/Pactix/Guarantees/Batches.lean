import Mathlib.Algebra.BigOperators.Group.Finset.Basic
import Pactix.Guarantees.Leases
import Pactix.Worker.Solo

/-!
# Working through a batch

What becomes of a batch when a callback raises, and whether its lease lasts until the
last callback.
-/

namespace Pactix.Guarantees

open Foundation Worker
open Queue (Phase Verdict)

section Service

variable {Worker Row Ask Summary Arrival Receipt Body : Type} {Reply : Ask → Type}
variable (service : Service Worker Row Ask Summary Arrival Receipt Body Reply)
variable (worker : Worker) (reply : (query : Ask) → Except Error (Reply query))
variable (contexts : Nat → Context Row Ask Reply) (others : Nat → List Row → List Row)
variable (table : List Row)

/-- The pass asks the callbacks and records the verdicts row by row, up to the first row
for which a callback raises, and raises what that callback raises. -/
structure StopsAtException : Prop where
  requests : (service.pass worker contexts others table).requests =
    .utcnow :: .reclaimAndClaim (service.query worker) (.utc (contexts 0).time) ::
      (service.routine worker).script reply (service.batch worker contexts others table)
  result : ∀ error, (service.pass worker contexts others table).result = .error error ↔
    ∃ row, ((service.routine worker).behind reply
        (service.batch worker contexts others table)).head? = some row ∧
      ((service.routine worker).inquire row).outcome reply = .error error

/-- What a pass alone leaves behind: settled entries for the rows before the first
exception, and the others as they were claimed. -/
structure SettlesAhead : Prop where
  settled : ∀ row ∈ (service.routine worker).ahead reply
      (service.batch worker contexts alone table),
    ∀ verdict, ((service.routine worker).inquire row).outcome reply = .ok verdict →
      ∃ position, service.settled worker (contexts position) row verdict ∈
        (service.pass worker contexts alone table).store.map service.entry
  left : ∀ row ∈ (service.routine worker).behind reply
      (service.batch worker contexts alone table),
    service.entry row ∈ (service.pass worker contexts alone table).store.map service.entry

/-- Every row of the batch for which the callbacks return has its verdict recorded. -/
def RecordsAll : Prop :=
  ∀ row ∈ service.batch worker contexts alone table, ∀ verdict,
    ((service.routine worker).inquire row).outcome reply = .ok verdict →
      (service.routine worker).recording row verdict ∈
        (service.pass worker contexts alone table).requests

/-- Callbacks raise for every row from the first one on for which they do. -/
def NoneStranded : Prop :=
  ∀ row ∈ (service.routine worker).behind reply (service.batch worker contexts alone table),
    (((service.routine worker).inquire row).outcome reply).isOk = false

variable {service worker reply contexts table}

theorem stopsAtException (replies : ∀ position, (contexts position).reply = reply)
    (others : Nat → List Row → List Row) (table : List Row) :
    StopsAtException service worker reply contexts others table := by
  obtain ⟨requests, result⟩ := pass_requests worker replies others table
  exact ⟨requests, result⟩

theorem settlesAhead_of_distinct (distinct : (table.map service.store.id).Nodup)
    (replies : ∀ position, (contexts position).reply = reply) :
    SettlesAhead service worker reply contexts table := by
  obtain ⟨settled, left⟩ := pass_settles worker distinct replies
  exact ⟨settled, left⟩

theorem recordsAll_iff (distinct : (table.map service.store.id).Nodup)
    (replies : ∀ position, (contexts position).reply = reply) :
    RecordsAll service worker reply contexts table ↔
      NoneStranded service worker reply contexts table := by
  have lent := Lent.of_claim worker contexts distinct
  obtain ⟨requests, _⟩ := pass_requests worker replies alone table
  constructor
  · intro records row membership
    cases outcome : ((service.routine worker).inquire row).outcome reply with
    | error => rfl
    | ok verdict =>
        have called := records row (Routine.behind_sublist.subset membership) verdict outcome
        rw [requests, List.mem_cons, List.mem_cons] at called
        have ofRow := recordsFor_recording service worker row verdict
        rcases called with same | same | scripted
        · rw [same] at ofRow
          simp [Call.recordsFor] at ofRow
        · rw [same] at ofRow
          simp [Call.recordsFor] at ofRow
        · obtain ⟨other, otherMem, sameId⟩ := mem_ahead_of_recordsFor scripted ofRow
          exact absurd (List.mem_map_of_mem membership) (Routine.disjoint_of_distinct
            lent.rows_distinct (sameId ▸ List.mem_map_of_mem otherMem))
  · intro stranded row membership verdict outcome
    rw [requests]
    refine List.mem_cons_of_mem _ (List.mem_cons_of_mem _ (List.mem_append_left _ ?_))
    rw [← Routine.ahead_append_behind (service.routine worker) reply
      (service.batch worker contexts alone table), List.mem_append] at membership
    rcases membership with before | after
    · exact List.mem_flatMap.mpr ⟨row, before, by simp [Routine.calls, outcome]⟩
    · have raises := stranded row after
      simp [outcome, Except.isOk, Except.toBool] at raises

/-! ## Leases -/

variable (service contexts) in
/-- Every callback of a pass starts no later than the lease of the record it is given. -/
def StartsInTime (transcript : PassTranscript Row Ask Reply Summary) : Prop :=
  ∀ call ∈ transcript.performed, ∀ query ∈ call.request.asked,
    ∀ lease ∈ service.store.leaseUntil (service.subject query),
      (contexts call.position).time ≤ lease.instant

variable (service worker) in
/-- The calls before each callback, from the reading of the clock on, together take no
longer than a lease of the worker lasts. -/
def FitsLease (duration : Nat → Nat) (transcript : PassTranscript Row Ask Reply Summary) :
    Prop :=
  ∀ call ∈ transcript.performed, call.request.asked.isSome →
    ((∑ earlier ∈ Finset.range call.position, duration earlier : Nat) : Int) ≤
      service.leaseDuration worker

variable (contexts) in
/-- The call at a position takes so long, up to the beginning of the next one. -/
def Lasts (duration : Nat → Nat) : Prop :=
  ∀ position, (contexts (position + 1)).time = (contexts position).time + duration position

theorem time_eq_sum {duration : Nat → Nat} (lasts : Lasts contexts duration)
    (position : Nat) : (contexts position).time =
      (contexts 0).time + (∑ earlier ∈ Finset.range position, duration earlier : Nat) := by
  induction position with
  | zero => simp
  | succ position ih =>
      rw [lasts, ih, Finset.sum_range_succ]
      push_cast
      omega

/-- The lease of a batch starts with the reading of the clock. -/
theorem lease_of_batch {others : Nat → List Row → List Row} {record : Row}
    (claimed : record ∈ service.batch worker contexts others table) :
    ∃ lease ∈ service.store.leaseUntil record,
      lease.instant = (contexts 0).time + service.leaseDuration worker := by
  have leased := service.refines.leases worker (service.query worker) (service.offered worker) _ _ _
    record claimed
  rw [service.refines.lease_entry, Option.map_eq_some_iff, DateTime.instant_utc] at leased
  exact leased

theorem startsInTime_iff {duration : Nat → Nat} (lasts : Lasts contexts duration)
    (others : Nat → List Row → List Row) :
    StartsInTime service contexts (service.pass worker contexts others table) ↔
      FitsLease service worker duration (service.pass worker contexts others table) := by
  constructor
  · intro inTime call performed asks
    obtain ⟨query, asked⟩ := Option.isSome_iff_exists.mp asks
    obtain ⟨lease, leased, begins⟩ :=
      lease_of_batch (subject_mem_batch performed (Call.asked_eq_some.mp asked))
    have bound := inTime call performed query asked lease leased
    rw [time_eq_sum lasts, begins] at bound
    omega
  · intro fits call performed query asked lease leased
    have bound := fits call performed (Option.isSome_of_mem asked)
    obtain ⟨same, sameLeased, begins⟩ :=
      lease_of_batch (subject_mem_batch performed (Call.asked_eq_some.mp asked))
    obtain rfl := Option.mem_unique leased sameLeased
    rw [time_eq_sum lasts, begins]
    omega

/-! ## Runs -/

variable (service) in
/-- A worker that is about to ask a callback within the lease of the record finds the row
as it claimed it. -/
def AsksOwnRow (state : State Worker Row Ask Summary Arrival Receipt Reply) : Prop :=
  ∀ worker query, state.request worker = some (.ask query) →
    ∀ lease ∈ service.store.leaseUntil (service.subject query), state.clock ≤ lease.instant →
      ∃ row ∈ state.table, service.store.id row = service.store.id (service.subject query) ∧
        (service.entry row).phase = .processing ∧
        (service.store.leaseUntil row).map DateTime.instant = some lease.instant

theorem asksOwnRow_of_path [DecidableEq Worker] {clock : Int}
    {state : State Worker Row Ask Summary Arrival Receipt Reply}
    (path : (machine service).Path (Disciplined service) (.initial clock) state) :
    AsksOwnRow service state := by
  obtain ⟨queue, simulates, orderly⟩ := orderly_of_path path
  intro worker query asks lease leased running
  have held := simulates.mem_held (simulates.asked asks).1
  have leasedEntry : (service.entry (service.subject query)).lease = some lease.instant := by
    rw [service.refines.lease_entry, Option.mem_def.mp leased, Option.map_some]
  have kept : (service.entry (service.subject query)).card.id ∉
      (queue.session worker).evicted := by
    intro lost
    obtain ⟨limit, limitLeased, past⟩ := orderly.punctual.evicted_late worker _ held lost
    rw [leasedEntry, Option.some.injEq] at limitLeased
    rw [simulates.clock, ← limitLeased] at past
    exact absurd running (not_le.mpr past)
  have stored := orderly.tenure.stored worker _ held kept
  rw [simulates.entries, List.mem_map] at stored
  obtain ⟨row, rowMem, viewed⟩ := stored
  refine ⟨row, rowMem, ?_, ?_, ?_⟩
  · rw [← service.refines.id_entry, viewed, service.refines.id_entry]
  · rw [viewed]
    exact ((simulates.sound.sessions worker).held_lent _ held).1
  · rw [← service.refines.lease_entry, viewed, leasedEntry]

theorem ids_nodup_of_path [DecidableEq Worker] {clock : Int}
    {state : State Worker Row Ask Summary Arrival Receipt Reply}
    (path : (machine service).Path Machine.Free (.initial clock) state) :
    (state.table.map service.store.id).Nodup := by
  obtain ⟨queue, simulates, _⟩ := evidenced_of_path path
  exact simulates.ids_nodup

end Service

/-! ## Rows whose callbacks raise -/

/-- A pass stops at the first row for which a callback raises: the rows before it are
delivered and recorded, it and the rows after it are not. -/
theorem exception_ends_pass {Worker J : Type} [DecidableEq Worker] (deployment : Deployment Worker)
    (mode : Worker → Inbox.Mode) (clock : Int) :
    (let service := Outbox.service (J := J) deployment
      ∀ worker reply contexts, (∀ position, (contexts position).reply = reply) →
        (∀ others table, StopsAtException service worker reply contexts others table) ∧
        ∀ state, (machine service).Path Machine.Free (.initial clock) state →
          SettlesAhead service worker reply contexts state.table ∧
          (RecordsAll service worker reply contexts state.table ↔
            NoneStranded service worker reply contexts state.table)) ∧
    (let service := Inbox.service (J := J) deployment mode
      ∀ worker reply contexts, (∀ position, (contexts position).reply = reply) →
        (∀ others table, StopsAtException service worker reply contexts others table) ∧
        ∀ state, (machine service).Path Machine.Free (.initial clock) state →
          SettlesAhead service worker reply contexts state.table ∧
          (RecordsAll service worker reply contexts state.table ↔
            NoneStranded service worker reply contexts state.table)) :=
  ⟨fun _ _ _ replies => ⟨stopsAtException replies, fun _ path =>
      have distinct := ids_nodup_of_path path
      ⟨settlesAhead_of_distinct distinct replies, recordsAll_iff distinct replies⟩⟩,
    fun _ _ _ replies => ⟨stopsAtException replies, fun _ path =>
      have distinct := ids_nodup_of_path path
      ⟨settlesAhead_of_distinct distinct replies, recordsAll_iff distinct replies⟩⟩⟩

/-- One publisher, which is not registered for refunds. -/
def registry : Outbox.PublisherRegistry Unit := Outbox.PublisherRegistry.register "order" () {}

/-- Passes in which the registry routes and the publisher publishes. -/
def routing (position : Nat) : Context (Outbox.OutboxMessageRecord Unit)
    (Outbox.OutboxMessageRecord Unit) fun _ => Outbox.PublishOutcome where
  time := (position + 2) * second
  choices := .plain
  reply := registry.publish fun _ _ => .ok .published

/-- A refund, and an order after it. -/
def refunds :=
  ((machine outbox).replay Machine.Free (.initial 0)
    [appending 1 0 refund, appending 2 1 m2]).get
      (by decide +kernel)

/-- A handler that fails on the second of two messages. -/
def failingOn (messageId : String) :
    (query : Inbox.Query Unit) → Except Error query.Reply
  | .staleEventFilter _ => .ok .fresh
  | .idempotencyHook _ => .ok .process
  | .handler record =>
      if record.messageId = messageId then .error (.routing "unavailable") else .ok .processed

def handlingBatch (position : Nat) :
    Context (Inbox.InboxMessageRecord Unit) (Inbox.Query Unit) Inbox.Query.Reply where
  time := (position + 2) * second
  choices := .plain
  reply := failingOn "m2"

def received :=
  ((machine inbox).replay Machine.Free (.initial 0)
    [receiving 1 0 refund, receiving 2 1 m2]).get
      (by decide +kernel)

theorem exception_ends_pass_sample :
    (SettlesAhead outbox false (routing 0).reply routing refunds.table ∧
      (RecordsAll outbox false (routing 0).reply routing refunds.table ↔
        NoneStranded outbox false (routing 0).reply routing refunds.table) ∧
      (outbox.pass false routing alone refunds.table).store.map (·.status) =
        [.processing, .processing]) ∧
    (StopsAtException inbox false (failingOn "m2") handlingBatch alone received.table ∧
      (inbox.pass false handlingBatch alone received.table).store.map (·.status) =
        [.processed, .processing]) := by
  have claim := exception_ends_pass (J := Unit) deployment
    (fun (_ : Bool) => .fifoPerOrderingKey) 0
  have path : (machine outbox).Path Machine.Free (.initial 0) refunds :=
    Machine.path_replay ..
  have handled := (claim.2 false (failingOn "m2") handlingBatch fun _ => rfl).1
    alone received.table
  have routed := (claim.1 false (routing 0).reply routing fun _ => rfl).2 _ path
  exact ⟨⟨routed.1, routed.2, by decide +kernel⟩, handled, by decide +kernel⟩

/-- An order for which the publisher returns is not recorded behind a refund. -/
theorem exception_strands_rows :
    ¬∀ worker reply contexts table, (∀ position, (contexts position).reply = reply) →
      RecordsAll outbox worker reply contexts table := by
  intro claim
  have recorded := claim false (routing 0).reply routing refunds.table fun _ => rfl
  let batch := outbox.batch false routing alone refunds.table
  have records := recorded (batch.get ⟨1, by decide +kernel⟩) (List.get_mem _ _) .done (by rfl)
  have unrecorded : (outbox.pass false routing alone refunds.table).requests.filterMap
      Call.recordsFor = [] := by decide +kernel
  have listed := List.mem_filterMap.mpr ⟨_, records, recordsFor_recording outbox false _ .done⟩
  rw [unrecorded] at listed
  simp at listed

/-! ## One lease for a batch -/

/-- The callbacks of a pass start under their leases exactly when the calls before them
fit into the lease.  In disciplined runs nobody else has taken such a row. -/
theorem lease_covers_batch {Worker J : Type} [DecidableEq Worker] (deployment : Deployment Worker)
    (mode : Worker → Inbox.Mode) (clock : Int) :
    (let service := Outbox.service (J := J) deployment;
      (∀ worker contexts others table duration, Lasts contexts duration →
        (StartsInTime service contexts (service.pass worker contexts others table) ↔
          FitsLease service worker duration (service.pass worker contexts others table))) ∧
      ∀ state, (machine service).Path (Disciplined service) (.initial clock) state →
        AsksOwnRow service state) ∧
    (let service := Inbox.service (J := J) deployment mode;
      (∀ worker contexts others table duration, Lasts contexts duration →
        (StartsInTime service contexts (service.pass worker contexts others table) ↔
          FitsLease service worker duration (service.pass worker contexts others table))) ∧
      ∀ state, (machine service).Path (Disciplined service) (.initial clock) state →
        AsksOwnRow service state) :=
  ⟨⟨fun _ _ others _ _ lasts => startsInTime_iff lasts others, fun _ => asksOwnRow_of_path⟩,
    fun _ _ others _ _ lasts => startsInTime_iff lasts others, fun _ => asksOwnRow_of_path⟩

theorem lease_covers_batch_sample :
    (StartsInTime outbox routing (outbox.pass false routing alone refunds.table) ↔
      FitsLease outbox false (fun _ => 1000000)
        (outbox.pass false routing alone refunds.table)) ∧
    (StartsInTime inbox handlingBatch (inbox.pass false handlingBatch alone received.table) ↔
      FitsLease inbox false (fun _ => 1000000)
        (inbox.pass false handlingBatch alone received.table)) ∧
    ∃ state, (machine inbox).replay (Disciplined inbox) (.initial 0)
        (handleRun.take 5) = some state ∧ AsksOwnRow inbox state := by
  have claim := lease_covers_batch (J := Unit) deployment
    (fun (_ : Bool) => .fifoPerOrderingKey) 0
  refine ⟨claim.1.1 false routing alone _ _ fun position => ?_,
    claim.2.1 false handlingBatch alone _ _ fun position => ?_, _,
    (Option.some_get (by decide +kernel)).symm, claim.2.2 _ (Machine.path_replay ..)⟩
  · simp [routing, second]
    omega
  · simp [handlingBatch, second]
    omega

/-- Passes in which every call takes ten seconds. -/
def slowly (position : Nat) : Context (Outbox.OutboxMessageRecord Unit)
    (Outbox.OutboxMessageRecord Unit) fun _ => Outbox.PublishOutcome where
  time := (position + 1) * 10 * second
  choices := .plain
  reply _ := .ok .published

/-- Calls that each keep to the lease do not keep to it together. -/
theorem lease_outlived :
    ¬∀ worker contexts table,
      (∀ position, (contexts position).time ≤ (contexts (position + 1)).time ∧
        (contexts (position + 2)).time < (contexts position).time + outbox.leaseDuration worker) →
      StartsInTime outbox contexts (outbox.pass worker contexts alone table) := by
  intro claim
  have late := claim false slowly refunds.table fun position => by
    have lease : outbox.leaseDuration false = (30000000 : Int) := by decide +kernel
    have time : ∀ position, (slowly position).time = (10000000 : Int) * (position + 1) := by
      intro position
      simp only [slowly, second]
      omega
    rw [time, time, time, lease]
    refine ⟨by omega, Int.lt_iff_add_one_le.mpr ?_⟩
    omega
  exact absurd late (by unfold StartsInTime; decide +kernel)

end Pactix.Guarantees
