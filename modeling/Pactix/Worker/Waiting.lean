import Mathlib.Tactic.Linarith
import Pactix.Queue.Waiting
import Pactix.Worker.Runs

/-!
# Rows that wait

When a claim passes over a row that it could have taken, it has taken a full batch of rows
that do not come after it.  Those rows have a limited number of attempts, so this happens a
limited number of times, whoever claims.
-/

namespace Pactix.Worker

open Foundation Queue

variable {Worker Row Ask Summary Arrival Receipt Body : Type} {Reply : Ask → Type}

/-- A claim that passes over a ready row which nobody has locked takes a full batch of rows
that do not come after it. -/
def Store.TakesOldest (store : Store Worker Row Arrival Receipt)
    (entry : Row → Entry UUID (String × String) Int Body) (batchSize : Worker → Nat) : Prop :=
  ∀ worker query, store.offers query → ∀ choices now table, (table.map store.id).Nodup →
    ∀ waiting ∈ sweep now.instant (table.map entry),
      waiting.Ready (decide (query = .fifo)) now.instant (sweep now.instant (table.map entry)) →
      choices.locked waiting.card.id = false →
      let claimed := (store.reclaimAndClaim worker query choices now table).1.2
      waiting.card.id ∉ claimed.map store.id →
        claimed.length = batchSize worker ∧
          ∀ record ∈ claimed, (entry record).card.stamp ≤ waiting.card.stamp

/-- What happens to a waiting row. -/
inductive Turn (Worker : Type) where
  /-- The claim of a worker passes over it. -/
  | passedOver (worker : Worker)
  /-- A row ahead of it is taken back from its worker. -/
  | reclaimed
  deriving DecidableEq, Repr

section Turns

variable (service : Service Worker Row Ask Summary Arrival Receipt Body Reply) (id : UUID)

/-- What a turn costs the rows ahead of the row: the batch of the worker that takes them. -/
def Service.cost : Turn Worker → Nat
  | .passedOver worker => service.batchSize worker
  | .reclaimed => 0

/-- A claim finds the row ready and free, and takes others. -/
def PassesOver (worker : Worker) (query : ClaimQuery) (now : DateTime) (choices : Choices Row UUID)
    (table : List Row) : Prop :=
  (∃ waiting ∈ sweep now.instant (table.map service.entry), waiting.card.id = id ∧
      waiting.Ready (decide (query = .fifo)) now.instant
        (sweep now.instant (table.map service.entry))) ∧
    choices.locked id = false ∧
    id ∉ (service.store.reclaimAndClaim worker query choices now table).1.2.map service.store.id

instance (worker : Worker) (query : ClaimQuery) (now : DateTime) (choices : Choices Row UUID)
    (table : List Row) : Decidable (PassesOver service id worker query now choices table) :=
  inferInstanceAs (Decidable (_ ∧ _ ∧ _))

/-- The turns that a step means to the row that has arrived at the time. -/
def Service.turns (stamp : Int) (state : State Worker Row Ask Summary Arrival Receipt Reply) :
    Label Worker Row Ask Arrival Reply → List (Turn Worker)
  | .act worker context =>
      match state.request worker with
      | some (.reclaimAndClaim query now) =>
          List.replicate (((state.table.map service.entry).filter
              (Entry.expired now.instant)).countP fun entry => entry.Ahead id stamp) .reclaimed ++
            if PassesOver service id worker query now context.choices state.table then
              [.passedOver worker]
            else []
      | _ => []
  | .receive _ | .spawn _ | .crash _ => []

end Turns

/-- No outcome is late, and what arrives comes after the row. -/
def Behind (service : Service Worker Row Ask Summary Arrival Receipt Body Reply) (stamp : Int)
    (state : State Worker Row Ask Summary Arrival Receipt Reply)
    (label : Label Worker Row Ask Arrival Reply) : Prop :=
  Current state label ∧
    Arriving service (fun _ row => stamp < (service.entry row).card.stamp) state label

instance (service : Service Worker Row Ask Summary Arrival Receipt Body Reply) (stamp : Int)
    (state : State Worker Row Ask Summary Arrival Receipt Reply)
    (label : Label Worker Row Ask Arrival Reply) : Decidable (Behind service stamp state label) :=
  inferInstanceAs (Decidable (Current state label ∧
    Arriving service (fun _ row => stamp < (service.entry row).card.stamp) state label))

section Shares

variable {id : UUID} {stamp : Int}

theorem sum_share (entries : List (Entry UUID (String × String) Int Body)) :
    (entries.map (Entry.share id stamp)).sum =
      entries.countP fun entry => entry.Ahead id stamp := by
  induction entries with
  | nil => rfl
  | cons entry entries ih =>
      rw [List.map_cons, List.sum_cons, ih, List.countP_cons]
      by_cases ahead : entry.Ahead id stamp
      · simp [Entry.share, ahead]
        omega
      · simp [Entry.share, ahead]

end Shares

variable {service : Service Worker Row Ask Summary Arrival Receipt Body Reply}
variable [DecidableEq Worker]
variable {state after : State Worker Row Ask Summary Arrival Receipt Reply}
  {queue : QueueState Worker Body} {label : Label Worker Row Ask Arrival Reply}
variable {id : UUID} {stamp : Int}

/-- After a claim the worker holds what it has claimed. -/
theorem held_claimed {worker : Worker} {context : Context Row Ask Reply} {query : ClaimQuery}
    {now : DateTime} (requests : state.request worker = some (.reclaimAndClaim query now))
    (stepped : step service state (.act worker context) = some after) :
    (after.process worker).held =
      (service.store.reclaimAndClaim worker query context.choices now state.table).1.2 := by
  cases stepped_of_step stepped with
  | act _ _ request resume running =>
      rw [request_of_running running, Option.some.injEq] at requests
      subst requests
      simp [act, Store.perform, Process.after]

omit [DecidableEq Worker] in
/-- A claim that passes over the row takes a full batch from those ahead of it. -/
theorem Simulates.shares_claimed (simulates : Simulates service state queue)
    (oldest : service.store.TakesOldest service.entry service.batchSize)
    (waits : ∃ waiting ∈ queue.entries, waiting.card.id = id ∧ waiting.card.stamp = stamp)
    {worker : Worker} {query : ClaimQuery} (offered : service.store.offers query)
    {now : DateTime} {choices : Choices Row UUID}
    (passed : PassesOver service id worker query now choices state.table) :
    (((service.store.reclaimAndClaim worker query choices now state.table).1.2.map
        service.entry).map (Entry.share id stamp)).sum = service.batchSize worker := by
  obtain ⟨⟨waiting, stored, named, ready⟩, free, unclaimed⟩ := passed
  subst named
  obtain ⟨full, before⟩ := oldest worker query offered choices now state.table
    simulates.ids_nodup waiting stored ready free unclaimed
  -- The row has kept the time of its arrival.
  have stamped : waiting.card.stamp = stamp := by
    obtain ⟨known, knownMem, sameId, rfl⟩ := waits
    obtain ⟨origin, originMem, card⟩ := List.mem_map.mp
      (cards_sweep now.instant _ ▸ List.mem_map_of_mem (f := Entry.card) stored)
    rw [← simulates.entries] at originMem
    rw [← card, simulates.sound.entry_unique originMem knownMem (by rw [card, sameId])]
  rw [sum_share, ← full, ← List.length_map (f := service.entry)]
  congr 1
  rw [List.countP_eq_length]
  intro entry listed
  obtain ⟨record, claimed, rfl⟩ := List.mem_map.mp listed
  have different : (service.entry record).card.id ≠ waiting.card.id := by
    intro same
    rw [service.refines.id_entry] at same
    exact unclaimed (same ▸ List.mem_map_of_mem claimed)
  exact decide_eq_true ⟨stamped ▸ before record claimed, different⟩

/-- Every step pays for the turns that it means to the row. -/
theorem Simulates.owed_step (simulates : Simulates service state queue)
    (oldest : service.store.TakesOldest service.entry service.batchSize)
    (tenure : Tenure queue) (capped : Capped queue)
    (waits : ∃ waiting ∈ queue.entries, waiting.card.id = id ∧ waiting.card.stamp = stamp)
    (behind : Behind service stamp state label) (stepped : step service state label = some after) :
    ∃ queueAfter, Simulates service after queueAfter ∧ Tenure queueAfter ∧ Capped queueAfter ∧
      (∃ waiting ∈ queueAfter.entries, waiting.card.id = id ∧ waiting.card.stamp = stamp) ∧
      (((service.turns id stamp state label).map service.cost).sum : Nat) +
          queueAfter.owed id stamp ≤
        queue.owed id stamp + (service.turns id stamp state label).count .reclaimed := by
  obtain ⟨current, arriving⟩ := behind
  rcases simulates.mirrored stepped with
    ⟨⟨arrival, rfl⟩, silent⟩ | ⟨action, queueAfter, answered, mirrors, simulated⟩
  · exact ⟨queue, silent, tenure, capped, waits, by simp [Service.turns]⟩
  · have licenses := mirrors.licenses simulates
    have current := licenses.current current
    have later : ∀ entry, action = .append entry → stamp < entry.card.stamp := by
      intro entry appended
      obtain ⟨row, rfl, admits, _⟩ := licenses.admits simulates arriving appended
      exact admits
    have stays : ∃ waiting ∈ queueAfter.entries,
        waiting.card.id = id ∧ waiting.card.stamp = stamp := by
      obtain ⟨waiting, stored, named, stamped⟩ := waits
      obtain ⟨kept, keptMem, card, _⟩ := attempts_step answered stored
      exact ⟨kept, keptMem, card ▸ named, card ▸ stamped⟩
    refine ⟨queueAfter, simulated, tenure.step simulates.sound current answered,
      capped.step simulates.sound (tenure.abreast simulates.sound current) answered,
      stays, ?_⟩
    have quietly : (∀ worker time now lease fifo chosen batch,
        action ≠ .claim worker time now lease fifo chosen batch) →
          queueAfter.owed id stamp ≤ queue.owed id stamp := fun quiet =>
      Queue.owed_step simulates.sound tenure capped current later quiet answered
    cases mirrors with
    | append | spawn | crash => simpa [Service.turns] using quietly (by simp)
    | read worker context requests | consult worker context query requests
    | decide worker context query reply verdict requests =>
        simpa [Service.turns, requests] using quietly (by simp)
    | record worker context row rest verdict requests =>
        cases verdict <;> simpa [Service.turns, requests, Routine.recording] using quietly (by simp)
    | claim worker context now lease chosen batch requests =>
        have held := (simulated.follows worker).held
        rw [held_claimed requests stepped] at held
        have paid := owed_claim id stamp answered
        rw [held, sum_share ((queue.entries).filter _), simulates.entries] at paid
        simp only [Service.turns, requests]
        by_cases passed : PassesOver service id worker (service.query worker) now
            context.choices state.table
        · rw [simulates.shares_claimed oldest waits (service.offered worker) passed] at paid
          simp [passed, Service.cost]
          omega
        · rw [sum_share] at paid
          simp [passed, Service.cost]
          omega

/-- Along every run the turns of a waiting row are paid for. -/
theorem overtaken_of_observed (oldest : service.store.TakesOldest service.entry service.batchSize)
    {clock : Int} {start finish : State Worker Row Ask Summary Arrival Receipt Reply}
    (path : (machine service).Path Current (.initial clock) start) {row : Row}
    (stored : row ∈ start.table) {turns : List (Turn Worker)}
    (observed : (machine service).Observed
      (Behind service (service.entry row).card.stamp)
      (service.turns (service.store.id row) (service.entry row).card.stamp) start turns finish) :
    ((turns.map service.cost).sum : Nat) ≤
      ((start.table.map service.entry).map
          (Entry.weight (service.store.id row) (service.entry row).card.stamp)).sum +
        turns.count .reclaimed := by
  obtain ⟨queue, simulates, tenure, capped⟩ := (Simulates.initial clock).path_holds
    (fun queue => Queue.Tenure queue ∧ Queue.Capped queue)
    (fun current simulates licenses step ⟨tenure, capped⟩ =>
      have current := licenses.current current
      ⟨tenure.step simulates.sound current step,
        capped.step simulates.sound (tenure.abreast simulates.sound current) step⟩)
    ⟨.initial clock, .initial clock⟩ path
  have waits : ∃ waiting ∈ queue.entries, waiting.card.id = service.store.id row ∧
      waiting.card.stamp = (service.entry row).card.stamp :=
    ⟨_, simulates.mem_entries stored, service.refines.id_entry row, rfl⟩
  rw [← simulates.entries]
  have kept := Machine.observed_invariant (fun turns state => ∃ later,
      Simulates service state later ∧ Tenure later ∧ Capped later ∧
      (∃ waiting ∈ later.entries, waiting.card.id = service.store.id row ∧
        waiting.card.stamp = (service.entry row).card.stamp) ∧
      ((turns.map service.cost).sum : Nat) +
          later.owed (service.store.id row) (service.entry row).card.stamp ≤
        queue.owed (service.store.id row) (service.entry row).card.stamp +
          turns.count .reclaimed) ?_ observed
    ⟨queue, simulates, tenure, capped, waits, by simp⟩
  · obtain ⟨later, _, _, capped, _, paid⟩ := kept
    have left := capped.owed_nonneg (service.store.id row)
      (service.entry row).card.stamp
    simp only [Queue.State.owed] at paid left
    omega
  · rintro turns state label after behind stepped ⟨later, simulates, tenure, capped, waits, paid⟩
    obtain ⟨next, simulated, tenure, capped, stays, cost⟩ :=
      simulates.owed_step oldest tenure capped waits behind stepped
    refine ⟨next, simulated, tenure, capped, stays, ?_⟩
    rw [List.map_append, List.sum_append, List.count_append, Nat.cast_add, Nat.cast_add]
    omega

end Pactix.Worker
