import Pactix.Guarantees.Leases
import Pactix.Worker.Solo

/-!
# Draining the queue

A worker that is left alone finishes every row, whatever has happened before.
-/

namespace Pactix.Guarantees

open Foundation Worker
open Queue (Phase backlog)

section Service

variable {Worker Row Ask Summary Arrival Receipt Body : Type} {Reply : Ask → Type}
variable (service : Service Worker Row Ask Summary Arrival Receipt Body Reply)
variable (worker : Worker)

/-- The table after so many passes of one worker, with nobody else at work. -/
def passes (contexts : Nat → Nat → Context Row Ask Reply) (table : List Row) :
    Nat → List Row
  | 0 => table
  | count + 1 =>
      (service.pass worker (contexts count) alone (passes contexts table count)).store

/-- No row is locked and no callback raises, and the pass begins when every lease is over
and every row is due. -/
structure Favourable (contexts : Nat → Context Row Ask Reply) (table : List Row) : Prop where
  unlocked : ∀ position id, (contexts position).choices.locked id = false
  returns : ∀ position query, ∃ reply, (contexts position).reply query = .ok reply
  ended : ∀ row ∈ table, ∀ lease ∈ service.store.leaseUntil row,
    lease.instant < (contexts 0).time
  due : ∀ row ∈ table, (service.entry row).due ≤ (contexts 0).time

/-- The sum over the rows that are not finished of the attempts that are left to them, one
at least. -/
def attemptsLeft (table : List Row) : Nat :=
  (table.map fun row =>
    if (service.entry row).phase.terminal then 0
    else (max 1 ((service.entry row).card.ceiling - (service.entry row).attempts)).toNat).sum

variable {service worker}

theorem attemptsLeft_eq (table : List Row) :
    attemptsLeft service table = backlog (table.map service.entry) := by
  simp only [attemptsLeft, backlog, List.map_map]
  rfl

theorem attemptsLeft_eq_zero {table : List Row} :
    attemptsLeft service table = 0 ↔
      ∀ row ∈ table, (service.entry row).phase.terminal = true := by
  simp [attemptsLeft_eq, Queue.backlog_eq_zero]

variable {contexts : Nat → Context Row Ask Reply} {table : List Row}

variable (worker) in
/-- A pass takes one attempt at least off the backlog for each claimed row. -/
theorem attemptsLeft_pass (distinct : (table.map service.store.id).Nodup)
    (favourable : Favourable service contexts table) :
    attemptsLeft service (service.pass worker contexts alone table).store +
      (service.batch worker contexts alone table).length ≤ attemptsLeft service table := by
  have lent := Lent.of_claim worker contexts distinct
  obtain ⟨chosen, lends, stored⟩ := service.refines.lends worker (service.query worker)
    (service.offered worker) (contexts 1).choices (.utc (contexts 0).time) table distinct
  have claimed : attemptsLeft service (service.claim worker contexts alone table).2 ≤
      attemptsLeft service table := by
    rw [attemptsLeft_eq, attemptsLeft_eq, Service.claim, alone, alone, stored]
    exact Queue.backlog_claim lends
  have delivered := deliver_backlog worker favourable.returns
    (service.opening (service.claim worker contexts alone table).1.1
      (service.claim worker contexts alone table).1.2.length) 2 lent
  rw [← attemptsLeft_eq, ← attemptsLeft_eq] at delivered
  rw [service.pass_eq]
  exact delivered.trans claimed

/-- A favourable pass over a table with an unfinished row claims something. -/
theorem batch_ne_nil {queue : QueueState Worker Body}
    {state : State Worker Row Ask Summary Arrival Receipt Reply}
    (simulates : Simulates service state queue) (positive : 0 < service.batchSize worker)
    (favourable : Favourable service contexts state.table)
    (isOpen : ∃ row ∈ state.table, (service.entry row).phase.terminal = false) :
    service.batch worker contexts alone state.table ≠ [] := by
  obtain ⟨row, stored, isOpen⟩ := isOpen
  refine service.refines.claims worker (service.query worker) (service.offered worker)
    (contexts 1).choices (.utc (contexts 0).time) state.table simulates.ids_nodup positive
    (favourable.unlocked 1) ?_
  rw [DateTime.instant_utc]
  refine Queue.exists_ready ?_ ?_ ?_ (List.mem_map_of_mem stored) isOpen _
  · rw [← simulates.entries]
    exact simulates.sound.leased
  · intro entry membership lease leased
    obtain ⟨other, otherMem, rfl⟩ := List.mem_map.mp membership
    rw [service.refines.lease_entry, Option.map_eq_some_iff] at leased
    obtain ⟨limit, limitMem, rfl⟩ := leased
    exact favourable.ended other otherMem limit limitMem
  · intro entry membership
    obtain ⟨other, otherMem, rfl⟩ := List.mem_map.mp membership
    exact favourable.due other otherMem

variable [DecidableEq Worker] {clock : Int}
variable {state : State Worker Row Ask Summary Arrival Receipt Reply}

variable (worker state) in
/-- Passes lead to tables of reachable states. -/
theorem passes_path (contexts : Nat → Nat → Context Row Ask Reply) (count : Nat) :
    ∃ after, (machine service).Path Machine.Free state after ∧
      after.table = passes service worker contexts state.table count := by
  induction count with
  | zero => exact ⟨state, .refl, rfl⟩
  | succ count ih =>
      obtain ⟨middle, earlier, same⟩ := ih
      obtain ⟨after, later, table⟩ := pass_path worker (contexts count) middle
      exact ⟨after, earlier.trans later, by rw [table, same]; rfl⟩

variable (service worker) in
/-- From the state on, favourable passes claim something as long as there is something to
do, and finish every row within the attempts that are left. -/
def Drains (state : State Worker Row Ask Summary Arrival Receipt Reply) : Prop :=
  ∀ contexts : Nat → Nat → Context Row Ask Reply,
    (∀ count, Favourable service (contexts count)
      (passes service worker contexts state.table count)) →
    (∀ count,
      (∃ row ∈ passes service worker contexts state.table count,
        (service.entry row).phase.terminal = false) →
      service.batch worker (contexts count) alone
        (passes service worker contexts state.table count) ≠ []) ∧
    ∀ count, attemptsLeft service state.table ≤ count →
      ∀ row ∈ passes service worker contexts state.table count,
        (service.entry row).phase.terminal = true

theorem drains_of_path (positive : 0 < service.batchSize worker)
    (path : (machine service).Path Machine.Free (.initial clock) state) :
    Drains service worker state := by
  intro contexts favourable
  have claims : ∀ count, (∃ row ∈ passes service worker contexts state.table count,
      (service.entry row).phase.terminal = false) →
      service.batch worker (contexts count) alone
        (passes service worker contexts state.table count) ≠ [] := by
    intro count isOpen
    obtain ⟨after, further, table⟩ := passes_path worker state contexts count
    obtain ⟨queue, simulates, _⟩ := evidenced_of_path (path.trans further)
    rw [← table] at isOpen ⊢
    exact batch_ne_nil simulates positive (table ▸ favourable count) isOpen
  refine ⟨claims, ?_⟩
  -- Each pass that finds something to do takes at least one attempt off the backlog.
  have measure : ∀ count, attemptsLeft service
      (passes service worker contexts state.table count) ≤
        attemptsLeft service state.table - count := by
    intro count
    induction count with
    | zero => exact le_refl _
    | succ count ih =>
        obtain ⟨after, further, table⟩ :=
          passes_path worker state contexts count
        obtain ⟨queue, simulates, _⟩ := evidenced_of_path (path.trans further)
        have decreases := attemptsLeft_pass worker (table ▸ simulates.ids_nodup)
          (favourable count)
        simp only [passes]
        by_cases finished : attemptsLeft service
            (passes service worker contexts state.table count) = 0
        · omega
        · have claimed : 0 < (service.batch worker (contexts count) alone
              (passes service worker contexts state.table count)).length := by
            rw [List.length_pos_iff]
            apply claims count
            by_contra none
            exact finished (attemptsLeft_eq_zero.mpr fun row membership => by
              by_contra isOpen
              exact none ⟨row, membership, by simpa using isOpen⟩)
          omega
  intro count enough
  have done := measure count
  exact attemptsLeft_eq_zero.mp (by omega)

end Service

/-- From every reachable state, a worker that is left alone claims in every pass and
finishes every row within the attempts that are left. -/
theorem queue_drains {Worker J : Type} [DecidableEq Worker] (deployment : Deployment Worker)
    (mode : Worker → Inbox.Mode) (clock : Int) :
    (let service := Outbox.service (J := J) deployment;
      ∀ state worker, 0 < (deployment.config worker).outboxBatchSize →
        (machine service).Path Machine.Free (.initial clock) state →
          Drains service worker state) ∧
    (let service := Inbox.service (J := J) deployment mode;
      ∀ state worker, 0 < (deployment.config worker).inboxBatchSize →
        (machine service).Path Machine.Free (.initial clock) state →
          Drains service worker state) :=
  ⟨fun _ _ positive => drains_of_path positive, fun _ _ positive => drains_of_path positive⟩

/-- Passes long after everything else. -/
def tidying (position : Nat) : Context (Outbox.OutboxMessageRecord Unit)
    (Outbox.OutboxMessageRecord Unit) fun _ => Outbox.PublishOutcome where
  time := (1000 + position) * second
  choices := .plain
  reply _ := .ok .published

def tidyingInbox (position : Nat) :
    Context (Inbox.InboxMessageRecord Unit) (Inbox.Query Unit) Inbox.Query.Reply where
  time := (1000 + position) * second
  choices := .plain
  reply := answering .processed

/-- A row in processing whose worker has stopped. -/
def abandoned :=
  ((machine outbox).replay Machine.Free (.initial 0) publishRun).get (by decide +kernel)

def abandonedInbox :=
  ((machine inbox).replay Machine.Free (.initial 0) handleRun).get (by decide +kernel)

/-- Passes that change nothing from the second one on. -/
theorem passes_of_fixed {Worker Row Ask Summary Arrival Receipt Body : Type}
    {Reply : Ask → Type} (service : Service Worker Row Ask Summary Arrival Receipt Body Reply)
    (worker : Worker) (contexts : Nat → Context Row Ask Reply) (table : List Row)
    {after : List Row}
    (first : (service.pass worker contexts alone table).store = after)
    (fixed : (service.pass worker contexts alone after).store = after) (count : Nat) :
    passes service worker (fun _ => contexts) table count = table ∨
      passes service worker (fun _ => contexts) table count = after := by
  induction count with
  | zero => exact .inl rfl
  | succ count ih =>
      right
      rcases ih with same | same <;> rw [passes, same]
      · exact first
      · exact fixed

theorem queue_drains_sample :
    (∀ row ∈ passes outbox true (fun _ => tidying) abandoned.table 2,
      row.status.phase.terminal = true) ∧
    (∀ row ∈ passes inbox true (fun _ => tidyingInbox) abandonedInbox.table 2,
      row.status.phase.terminal = true) := by
  have claim := queue_drains (J := Unit) deployment
    (fun (_ : Bool) => .fifoPerOrderingKey) 0
  constructor
  · refine (claim.1 abandoned true (by decide) (Machine.path_replay ..) (fun _ => tidying)
      fun count => ?_).2 2 (by decide +kernel)
    rcases passes_of_fixed outbox true tidying abandoned.table rfl (by decide +kernel) count with
      same | same <;> rw [same]
    · exact ⟨fun _ _ => rfl, fun _ _ => ⟨_, rfl⟩, by decide +kernel, by decide +kernel⟩
    · exact ⟨fun _ _ => rfl, fun _ _ => ⟨_, rfl⟩, by decide +kernel, by decide +kernel⟩
  · refine (claim.2 abandonedInbox true (by decide) (Machine.path_replay ..)
      (fun _ => tidyingInbox) fun count => ?_).2 2 (by decide +kernel)
    have returns : ∀ query, ∃ reply, answering .processed query = .ok reply := by
      intro query
      cases query <;> exact ⟨_, rfl⟩
    rcases passes_of_fixed inbox true tidyingInbox abandonedInbox.table rfl (by decide +kernel)
      count with same | same <;> rw [same]
    · exact ⟨fun _ _ => rfl, fun _ => returns, by decide +kernel, by decide +kernel⟩
    · exact ⟨fun _ _ => rfl, fun _ => returns, by decide +kernel, by decide +kernel⟩

end Pactix.Guarantees
