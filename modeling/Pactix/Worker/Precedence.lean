import Pactix.Worker.Consulting

/-!
# What comes before a row

Where everything that comes before a row in its key is finished, it stays as it is: no worker
changes it, and serial producers add nothing to it.
-/

namespace Pactix.Worker

open Foundation Queue

variable {Worker Row Ask Summary Arrival Receipt Body : Type} {Reply : Ask → Type}
variable (service : Service Worker Row Ask Summary Arrival Receipt Body Reply)

/-- Leases are kept, and producers add the rows of a key one after the other. -/
def InTurn (state : State Worker Row Ask Summary Arrival Receipt Reply)
    (label : Label Worker Row Ask Arrival Reply) : Prop :=
  Disciplined service state label ∧ Arriving service (Serial service) state label

instance (state : State Worker Row Ask Summary Arrival Receipt Reply)
    (label : Label Worker Row Ask Arrival Reply) : Decidable (InTurn service state label) :=
  inferInstanceAs (Decidable (Disciplined service state label ∧
    Arriving service (Serial service) state label))

/-- Every older row of its key is finished. -/
def Foremost (table : List Row) (row : Row) : Prop :=
  ∀ older ∈ table, (service.entry older).card.Older (service.entry row).card →
    (service.entry older).phase.terminal = true

variable {service} [DecidableEq Worker]
variable {state after : State Worker Row Ask Summary Arrival Receipt Reply}
variable {label : Label Worker Row Ask Arrival Reply} {queue : QueueState Worker Body}
variable {row older : Row} {clock : Int}

omit [DecidableEq Worker] in
theorem foremost_congr {table : List Row} {other : Row}
    (same : (service.entry row).card = (service.entry other).card)
    (foremost : Foremost service table row) : Foremost service table other :=
  fun older stored isOlder => foremost older stored (same ▸ isOlder)

/-- A row after a step has the card of a row before, or a producer has added it. -/
theorem Simulates.card_origin (simulates : Simulates service state queue)
    (stepped : step service state label = some after) (present : row ∈ after.table) :
    (∃ origin ∈ state.table, (service.entry origin).card = (service.entry row).card) ∨
      ∃ arrival receipt, label = .receive arrival ∧
        service.store.receive arrival state.table = .ok (after.table, receipt) ∧
        after.table = state.table ++ [row] ∧
        service.store.id row ∉ state.table.map service.store.id := by
  by_cases receives : ∃ arrival, label = .receive arrival
  · obtain ⟨arrival, rfl⟩ := receives
    cases stepped_of_step stepped with
    | reject => exact .inl ⟨row, present, rfl⟩
    | receive _ table receipt received =>
        rcases service.refines.receive received with rfl | ⟨added, rfl, _, unknown⟩
        · exact .inl ⟨row, present, rfl⟩
        · rcases List.mem_append.mp present with before | new
          · exact .inl ⟨row, before, rfl⟩
          · obtain rfl := List.mem_singleton.mp new
            exact .inr ⟨arrival, receipt, rfl, received, rfl, unknown⟩
  · have cards := simulates.cards_kept stepped fun arrival same => receives ⟨arrival, same⟩
    have card : (service.entry row).card ∈ state.table.map fun row => (service.entry row).card :=
      cards ▸ List.mem_map_of_mem (f := fun row => (service.entry row).card) present
    exact .inl (List.mem_map.mp card)

/-- A row that is older than a foremost one was there before the step, as it is. -/
theorem Simulates.older_kept (simulates : Simulates service state queue)
    (orderly : Orderly queue) (inTurn : InTurn service state label)
    (stepped : step service state label = some after)
    (known : ∃ stored ∈ state.table, (service.entry stored).card = (service.entry row).card)
    (foremost : Foremost service state.table row) (present : older ∈ after.table)
    (isOlder : (service.entry older).card.Older (service.entry row).card) :
    older ∈ state.table := by
  rcases simulates.card_origin stepped present with
    ⟨origin, stored, sameCard⟩ | ⟨arrival, receipt, rfl, received, _, unknown⟩
  · have current : Current state label := by
      cases label with
      | receive | spawn | crash => trivial
      | act worker context =>
          exact fun id records => simulates.kept orderly.punctual inTurn.1 records
    obtain ⟨stays, _⟩ := simulates.absorbing orderly.tenure
      (Machine.path_single label current stepped) stored
      (foremost origin stored (sameCard ▸ isOlder))
    obtain ⟨later, simulated, _⟩ := simulates.tenure_of_path orderly.tenure
      (Machine.path_single label current stepped)
    have same : origin = older := by
      apply List.inj_on_of_nodup_map simulated.ids_nodup stays present
      rw [← service.refines.id_entry, sameCard, service.refines.id_entry]
    exact same ▸ stored
  · -- A row that is added comes after the rows of its key.
    obtain ⟨stored, storedMem, sameCard⟩ := known
    obtain ⟨keyed, sameKey, earlier⟩ := isOlder
    have serial := inTurn.2 _ (by rw [received]; rfl) older present unknown
    have later := serial (sameKey ▸ keyed) stored storedMem (by rw [sameCard, sameKey])
    rw [sameCard] at later
    exact absurd earlier (lt_asymm later)

/-- What is foremost stays foremost. -/
theorem Simulates.foremost_kept (simulates : Simulates service state queue)
    (orderly : Orderly queue) (inTurn : InTurn service state label)
    (stepped : step service state label = some after)
    (known : ∃ stored ∈ state.table, (service.entry stored).card = (service.entry row).card)
    (foremost : Foremost service state.table row) : Foremost service after.table row :=
  fun older present isOlder =>
    foremost older (simulates.older_kept orderly inTurn stepped known foremost present isOlder)
      isOlder

/-- A foremost row keeps its card and stays foremost. -/
theorem Simulates.foremost_row (simulates : Simulates service state queue)
    (orderly : Orderly queue) (inTurn : InTurn service state label)
    (stepped : step service state label = some after) (stored : row ∈ state.table)
    (foremost : Foremost service state.table row) :
    ∃ later ∈ after.table, (service.entry later).card = (service.entry row).card ∧
      Foremost service after.table later := by
  obtain ⟨later, present, card, _⟩ :=
    simulates.rows_kept (Machine.path_single label trivial stepped) stored
  exact ⟨later, present, card, foremost_congr card.symm
    (simulates.foremost_kept orderly inTurn stepped ⟨row, stored, rfl⟩ foremost)⟩

/-! ## Callbacks -/

/-- A callback is asked about foremost rows. -/
theorem foremost_of_asked (fifo : ∀ worker, service.query worker = .fifo)
    (path : (machine service).Path (InTurn service) (.initial clock) state) {worker : Worker}
    {query : Ask} (asks : state.request worker = some (.ask query)) :
    Foremost service state.table (service.subject query) := by
  obtain ⟨queue, simulates, _, ordered, _⟩ := ordered_of_path fifo path
  intro older stored isOlder
  exact ordered.held_last worker _ (simulates.mem_held (simulates.asked asks).1) _
    (simulates.mem_entries stored) isOlder

/-- Every record that a callback has answered for is foremost. -/
theorem foremost_of_consulted (fifo : ∀ worker, service.query worker = .fifo)
    (path : (machine service).Path (InTurn service) (.initial clock) state) :
    ∀ call ∈ state.consulted, Foremost service state.table (service.subject call.query) := by
  induction path with
  | refl =>
      intro call consulted
      cases consulted
  | @tail before next earlier last ih =>
      obtain ⟨label, inTurn, stepped⟩ := last
      obtain ⟨queue, simulates, orderly, _⟩ := ordered_of_path fifo earlier
      have kept : ∀ call ∈ before.consulted,
          Foremost service next.table (service.subject call.query) := fun call consulted =>
        simulates.foremost_kept orderly inTurn stepped
          (consulted_of_path (Machine.path_mono (fun _ _ _ => trivial) earlier) call consulted)
          (ih call consulted)
      intro call consulted
      rcases consulted_step stepped with same | ⟨worker, context, query, reply, _, asks, _, added⟩
      · exact kept call (same ▸ consulted)
      · rw [added] at consulted
        rcases List.mem_cons.mp consulted with rfl | listed
        · exact simulates.foremost_kept orderly inTurn stepped
            (simulates.held_stored (simulates.asked asks).1) (foremost_of_asked fifo earlier asks)
        · exact kept call listed

end Pactix.Worker
