import Pactix.Worker.Refinement

/-!
# Runs of a service

The invariants of the queue, carried over to the runs of any service, and what a
single step may do to a terminal row or to a held record.
-/

namespace Pactix.Worker

open Foundation Queue

variable {Worker Row Ask Summary Arrival Receipt Body : Type} {Reply : Ask → Type}
variable {service : Service Worker Row Ask Summary Arrival Receipt Body Reply}
variable [DecidableEq Worker]
variable {state start finish : State Worker Row Ask Summary Arrival Receipt Reply}
  {queue : QueueState Worker Body}

/-- Clocked runs in which every outcome is recorded under its lease. -/
def Disciplined (service : Service Worker Row Ask Summary Arrival Receipt Body Reply)
    (state : State Worker Row Ask Summary Arrival Receipt Reply)
    (label : Label Worker Row Ask Arrival Reply) : Prop :=
  Clocked state label ∧ Timely service state label

instance (state : State Worker Row Ask Summary Arrival Receipt Reply)
    (label : Label Worker Row Ask Arrival Reply) :
    Decidable (Disciplined service state label) :=
  inferInstanceAs (Decidable (Clocked state label ∧ Timely service state label))

/-- An invariant of the queue's runs holds of the queue a run leads to. -/
theorem Simulates.path_holds
    {permitted : State Worker Row Ask Summary Arrival Receipt Reply →
      Label Worker Row Ask Arrival Reply → Prop}
    (Holds : QueueState Worker Body → Prop)
    (preserved : ∀ {state label queue action after}, permitted state label →
      Simulates service state queue → Licenses service state label queue action →
      Step queue action after → Holds queue → Holds after)
    (simulates : Simulates service start queue) (holds : Holds queue)
    (path : (machine service).Path permitted start finish) :
    ∃ queue, Simulates service finish queue ∧ Holds queue := by
  refine Machine.path_invariant
    (fun state => ∃ queue, Simulates service state queue ∧ Holds queue) ?_ path
    ⟨queue, simulates, holds⟩
  rintro before label after permit stepped ⟨queue, simulates, holds⟩
  rcases simulates.answer stepped with ⟨_, silent⟩ | ⟨action, later, answered, licenses, simulated⟩
  · exact ⟨queue, silent, holds⟩
  · exact ⟨later, simulated, preserved permit simulates licenses answered holds⟩

/-- In every run the queue is sound and every terminal entry has its evidence. -/
theorem evidenced_of_path {clock : Int}
    (path : (machine service).Path Machine.Free (.initial clock) state) :
    ∃ queue, Simulates service state queue ∧ Evidenced queue :=
  (Simulates.initial clock).path_holds Evidenced
    (fun _ simulates _ step evidenced => evidenced.step simulates.sound step)
    (.initial clock) path

/-- In every run a stored row keeps its card, and its attempts are not taken back. -/
theorem Simulates.rows_kept (simulates : Simulates service start queue)
    (path : (machine service).Path Machine.Free start finish) {row : Row}
    (stored : row ∈ start.table) :
    ∃ kept ∈ finish.table, (service.entry kept).card = (service.entry row).card ∧
      (service.entry row).attempts ≤ (service.entry kept).attempts := by
  obtain ⟨later, simulated, kept⟩ := simulates.path_holds
    (fun later => ∃ entry ∈ later.entries, entry.card = (service.entry row).card ∧
      (service.entry row).attempts ≤ entry.attempts)
    (by
      rintro _ _ _ _ _ _ _ _ step ⟨entry, membership, sameCard, grown⟩
      obtain ⟨next, nextMem, nextCard, more⟩ := attempts_step step membership
      exact ⟨next, nextMem, nextCard.trans sameCard, grown.trans more⟩)
    ⟨_, simulates.mem_entries stored, rfl, le_refl _⟩ path
  obtain ⟨entry, membership, sameCard, grown⟩ := kept
  rw [simulated.entries, List.mem_map] at membership
  obtain ⟨keptRow, keptMem, rfl⟩ := membership
  exact ⟨keptRow, keptMem, sameCard, grown⟩

/-- Tenure along runs without late outcomes. -/
theorem Simulates.tenure_of_path (simulates : Simulates service start queue)
    (tenure : Tenure queue) (path : (machine service).Path Current start finish) :
    ∃ queue, Simulates service finish queue ∧ Tenure queue :=
  simulates.path_holds Tenure
    (fun current simulates licenses step tenure =>
      tenure.step simulates.sound (licenses.current current) step)
    tenure path

/-- The ceiling along runs in which failures find the count of their records. -/
theorem capped_of_path {clock : Int}
    (path : (machine service).Path (Abreast service) (.initial clock) state) :
    ∃ queue, Simulates service state queue ∧ Capped queue :=
  (Simulates.initial clock).path_holds Capped
    (fun abreast simulates licenses step capped =>
      capped.step simulates.sound (licenses.abreast abreast) step)
    (.initial clock) path

/-- Clocks, leases and tenure along disciplined runs. -/
theorem orderly_of_path {clock : Int}
    (path : (machine service).Path (Disciplined service) (.initial clock) state) :
    ∃ queue, Simulates service state queue ∧ Orderly queue :=
  (Simulates.initial clock).path_holds Orderly
    (fun disciplined _ licenses step orderly =>
      orderly.step (licenses.clocked disciplined.1) (licenses.timely disciplined.2) step)
    (.initial clock) path

omit [DecidableEq Worker] in
/-- A worker that is about to record an outcome has decided about the head of its
batch. -/
theorem Simulates.settles (simulates : Simulates service state queue) {worker : Worker}
    {id : UUID} (records : state.recordsFor worker = some id) :
    ∃ record rest verdict, (state.process worker).held = record :: rest ∧
      service.store.id record = id ∧
      (queue.session worker).decided = some (service.entry record, verdict) := by
  unfold State.recordsFor State.request at records
  split at records
  next request resume running =>
    rw [Option.bind_some] at records
    obtain ⟨reading, decided, _, sameDecided, conforms⟩ :=
      (simulates.follows worker).program _ _ running
    cases request with
    | utcnow | reclaimAndClaim | ask => simp [Call.recordsFor] at records
    | markDone | handleRetryableFailure | markFailed =>
        obtain ⟨rest, ⟨record, verdict, held, rfl, same⟩, _⟩ := conforms
        rw [same, recordsFor_recording, Option.some.injEq] at records
        exact ⟨record, rest, verdict, held, records, sameDecided⟩
  next => simp at records

omit [DecidableEq Worker] in
/-- With tenure, a worker that is about to record an outcome for a row that nobody has
taken from it finds the row as it was claimed. -/
theorem Simulates.record_meets (simulates : Simulates service state queue)
    (tenure : Tenure queue) {worker : Worker} {id : UUID}
    (records : state.recordsFor worker = some id)
    (kept : id ∉ (state.process worker).evicted) :
    ∃ record rest row, (state.process worker).held = record :: rest ∧
      service.store.id record = id ∧ row ∈ state.table ∧
      service.entry row = service.entry record ∧
      (service.entry row).phase = .processing := by
  obtain ⟨record, rest, verdict, held, sameId, decided⟩ := simulates.settles records
  have current : Queue.Current queue (.record worker 0 0) := by
    rintro other time due same entry given settled
    simp only [Action.record.injEq] at same
    obtain ⟨rfl, rfl, rfl⟩ := same
    rw [decided, Option.some.injEq, Prod.mk.injEq] at settled
    rw [← settled.1, service.refines.id_entry, sameId, (simulates.follows worker).evicted]
    exact kept
  obtain ⟨stored, processing, _⟩ := tenure.record_meets simulates.sound current decided
  rw [simulates.entries, List.mem_map] at stored
  obtain ⟨row, rowMem, same⟩ := stored
  exact ⟨record, rest, row, held, sameId, rowMem, same, by rw [same, processing]⟩

omit [DecidableEq Worker] in
/-- With tenure, a failure finds the count of its record unless the row has been taken away. -/
theorem Simulates.abreast (simulates : Simulates service state queue) (tenure : Tenure queue)
    {label : Label Worker Row Ask Arrival Reply} (current : Current state label) :
    Abreast service state label := by
  cases label with
  | receive | spawn | crash => trivial
  | act worker context =>
      intro id fails record held sameId row stored rowId
      obtain ⟨request, requests, counted⟩ := Option.bind_eq_some_iff.mp fails
      have records : state.recordsFor worker = some id := by
        rw [State.recordsFor, requests, Option.bind_some, Call.recordsFor_of_fails counted]
      obtain ⟨own, rest, other, batch, ownId, otherMem, viewed, _⟩ :=
        simulates.record_meets tenure records (current id records)
      have sameRow : other = row := List.inj_on_of_nodup_map simulates.ids_nodup otherMem stored
        (by rw [← service.refines.id_entry, viewed, service.refines.id_entry, ownId, rowId])
      have sameRecord : own = record := by
        have distinct := (simulates.sound.sessions worker).held_nodup
        rw [(simulates.follows worker).held, List.map_map] at distinct
        exact List.inj_on_of_nodup_map distinct (batch ▸ List.mem_cons_self) held
          (by simp only [Function.comp_apply, service.refines.id_entry, ownId, sameId])
      rw [← sameRow, viewed, sameRecord]

/-- In runs without late outcomes every failure finds the count of its record. -/
theorem abreast_of_current {clock : Int}
    (path : (machine service).Path Current (.initial clock) state) :
    (machine service).Path (Abreast service) (.initial clock) state := by
  suffices both : (∃ queue, Simulates service state queue ∧ Tenure queue) ∧
      (machine service).Path (Abreast service) (.initial clock) state from both.2
  induction path with
  | refl => exact ⟨⟨_, .initial clock, .initial clock⟩, .refl⟩
  | tail _ last ih =>
      obtain ⟨label, current, stepped⟩ := last
      obtain ⟨⟨queue, simulates, tenure⟩, earlier⟩ := ih
      exact ⟨simulates.tenure_of_path tenure (Machine.path_single label current stepped),
        earlier.tail ⟨label, simulates.abreast tenure current, stepped⟩⟩

omit [DecidableEq Worker] in
/-- Under one clock, a worker that records in time has not lost the row. -/
theorem Simulates.kept (simulates : Simulates service state queue)
    (punctual : Punctual queue) {worker : Worker} {context : Context Row Ask Reply}
    (disciplined : Disciplined service state (.act worker context)) {id : UUID}
    (records : state.recordsFor worker = some id) : id ∉ (state.process worker).evicted := by
  intro lost
  obtain ⟨record, rest, _, held, sameId, _⟩ := simulates.settles records
  have atHead : record ∈ (state.process worker).held := by
    rw [held]
    exact List.mem_cons_self
  obtain ⟨lease, leased, ended⟩ := punctual.evicted_late worker (service.entry record)
    (simulates.mem_held atHead)
    (by rw [service.refines.id_entry, sameId, (simulates.follows worker).evicted]; exact lost)
  rw [service.refines.lease_entry, Option.map_eq_some_iff] at leased
  obtain ⟨limit, limitMem, rfl⟩ := leased
  have inTime := disciplined.2 id records record atHead sameId limit limitMem
  have clocked := disciplined.1
  rw [simulates.clock] at ended
  exact absurd (lt_of_lt_of_le ended (clocked.trans inTime)) (lt_irrefl _)

/-- Disciplined runs are runs without late outcomes. -/
theorem current_of_disciplined {clock : Int} {Also : State Worker Row Ask Summary Arrival
      Receipt Reply → Label Worker Row Ask Arrival Reply → Prop}
    (path : (machine service).Path
      (fun state label => Disciplined service state label ∧ Also state label)
      (.initial clock) state) :
    (machine service).Path (fun state label => Current state label ∧ Also state label)
      (.initial clock) state := by
  suffices both : (∃ queue, Simulates service state queue ∧ Orderly queue) ∧
      (machine service).Path (fun state label => Current state label ∧ Also state label)
        (.initial clock) state from both.2
  induction path with
  | refl => exact ⟨⟨_, .initial clock, .initial clock⟩, .refl⟩
  | tail _ last ih =>
      obtain ⟨label, ⟨disciplined, also⟩, stepped⟩ := last
      obtain ⟨⟨queue, simulates, orderly⟩, earlier⟩ := ih
      refine ⟨simulates.path_holds Orderly (fun disciplined _ licenses step orderly =>
          orderly.step (licenses.clocked disciplined.1) (licenses.timely disciplined.2) step)
        orderly (Machine.path_single label disciplined stepped), earlier.tail ⟨label, ⟨?_, also⟩,
          stepped⟩⟩
      cases label with
      | receive | spawn | crash => trivial
      | act worker context =>
          intro id records
          exact simulates.kept orderly.punctual disciplined records

omit [DecidableEq Worker] in
/-- A condition on arriving rows holds of the appended entry and the stored entries. -/
theorem Licenses.admits {Admits : List Row → Row → Prop}
    {label : Label Worker Row Ask Arrival Reply}
    {action : Action Worker UUID (String × String) Int Body}
    (licenses : Licenses service state label queue action)
    (simulates : Simulates service state queue) (arriving : Arriving service Admits state label)
    {entry : Entry UUID (String × String) Int Body} (appended : action = .append entry) :
    ∃ row, service.entry row = entry ∧ Admits state.table row ∧
      ∀ stored ∈ queue.entries, ∃ other ∈ state.table, service.entry other = stored := by
  obtain ⟨row, viewed, admits⟩ := licenses.arriving entry appended
  exact ⟨row, viewed, admits _ arriving, by simp [simulates.entries]⟩

/-- Order along disciplined runs of FIFO workers with serial producers. -/
theorem ordered_of_path {clock : Int} (fifo : ∀ worker, service.query worker = .fifo)
    (path : (machine service).Path
      (fun state label => Disciplined service state label ∧
        Arriving service (Serial service) state label) (.initial clock) state) :
    ∃ queue, Simulates service state queue ∧ Orderly queue ∧ Ordered queue ∧
      Exclusive queue := by
  refine (Simulates.initial clock).path_holds
    (fun queue => Orderly queue ∧ Ordered queue ∧ Exclusive queue) ?_
    ⟨.initial clock, .initial clock, .initial clock⟩ path
  rintro state label queue action after ⟨disciplined, arriving⟩ simulates licenses step
    ⟨orderly, ordered, exclusive⟩
  have clocked := licenses.clocked disciplined.1
  have timely := licenses.timely disciplined.2
  have current := orderly.punctual.current orderly.sound clocked timely
  have grouped := licenses.grouped fifo
  have serial : Queue.Serial queue action := by
    intro entry appended keyed stored storedMem sameKey
    obtain ⟨row, rfl, admits, viewed⟩ := licenses.admits simulates arriving appended
    obtain ⟨other, otherMem, rfl⟩ := viewed stored storedMem
    exact admits keyed other otherMem sameKey
  exact ⟨orderly.step clocked timely step,
    ordered.step orderly.sound orderly.tenure current grouped serial step,
    exclusive.step orderly.sound orderly.tenure current grouped serial.placed step⟩

/-- Exclusion along runs of FIFO workers without late outcomes. -/
theorem exclusive_of_path {clock : Int} (fifo : ∀ worker, service.query worker = .fifo)
    (path : (machine service).Path
      (fun state label => Current state label ∧
        Arriving service (Placed service) state label) (.initial clock) state) :
    ∃ queue, Simulates service state queue ∧ Tenure queue ∧ Exclusive queue := by
  refine (Simulates.initial clock).path_holds
    (fun queue => Tenure queue ∧ Exclusive queue) ?_ ⟨.initial clock, .initial clock⟩ path
  rintro state label queue action after ⟨current, arriving⟩ simulates licenses step
    ⟨tenure, exclusive⟩
  have placed : Queue.Placed queue action := by
    intro entry appended keyed stored storedMem sameKey
    obtain ⟨row, rfl, admits, viewed⟩ := licenses.admits simulates arriving appended
    obtain ⟨other, otherMem, rfl⟩ := viewed stored storedMem
    exact admits keyed other otherMem sameKey
  exact ⟨tenure.step simulates.sound (licenses.current current) step,
    exclusive.step simulates.sound tenure (licenses.current current)
      (licenses.grouped fifo) placed step⟩

/-! ## Single steps -/

omit [DecidableEq Worker] in
/-- Claimed records are stored rows under the lease of the pass. -/
theorem claimed_stored {worker : Worker} {query : ClaimQuery}
    (offered : service.store.offers query) (choices : Choices Row UUID) (now : DateTime)
    {table : List Row}
    (distinct : (table.map service.store.id).Nodup) {record : Row}
    (claimed : record ∈ (service.store.reclaimAndClaim worker query choices now table).1.2) :
    (service.entry record).phase = .processing ∧
      (service.entry record).lease = some (now.instant + service.leaseDuration worker) ∧
      ∃ row ∈ (service.store.reclaimAndClaim worker query choices now table).2,
        service.entry row = service.entry record := by
  obtain ⟨chosen, lends, lent⟩ :=
    service.refines.lends worker query offered choices now table distinct
  obtain ⟨swept, _, _, taken, stored⟩ := lends.mem_lend (List.mem_map_of_mem claimed)
  rw [← lent, List.mem_map] at stored
  exact ⟨by rw [taken]; rfl, by rw [taken]; rfl, stored⟩

omit [DecidableEq Worker] in
/-- While a callback runs, its record is at the head of the batch. -/
theorem Simulates.asked (simulates : Simulates service state queue) {worker : Worker}
    {query : Ask} (asks : state.request worker = some (.ask query)) :
    service.subject query ∈ (state.process worker).held ∧ service.uses worker query := by
  unfold State.request at asks
  split at asks
  next request resume running =>
    obtain rfl := Option.some.inj asks
    obtain ⟨_, _, _, _, _, uses, head, _⟩ := (simulates.follows worker).program _ _ running
    exact ⟨List.mem_of_head? head, uses⟩
  next => simp at asks

/-- In every run a terminal row is changed only by recording an outcome for it. -/
theorem Simulates.terminal_step (simulates : Simulates service state queue)
    {label : Label Worker Row Ask Arrival Reply}
    {after : State Worker Row Ask Summary Arrival Receipt Reply}
    (stepped : step service state label = some after) {row : Row}
    (stored : row ∈ state.table) (terminal : (service.entry row).phase.terminal = true) :
    row ∈ after.table ∨ ∃ worker context, label = .act worker context ∧
      state.recordsFor worker = some (service.store.id row) := by
  cases stepped_of_step stepped with
  | receive arrival table receipt received =>
      rcases service.refines.receive received with rfl | ⟨added, rfl, _⟩
      · exact .inl stored
      · exact .inl (List.mem_append_left _ stored)
  | reject | spawn | crash => exact .inl stored
  | act worker context request resume running =>
      obtain ⟨reading, decided, _, _, conforms⟩ :=
        (simulates.follows worker).program _ _ running
      cases request with
      | utcnow | ask => exact .inl stored
      | reclaimAndClaim query now =>
          have offered := conforms.2.2.1 ▸ service.offered worker
          exact .inl (service.refines.claim_keeps worker query offered context.choices now
            state.table simulates.ids_nodup row stored terminal)
      | markDone | handleRetryableFailure | markFailed =>
          obtain ⟨rest, ⟨recorded, verdict, _, _, same⟩, _⟩ := conforms
          by_cases own : service.store.id row = service.store.id recorded
          · refine .inr ⟨worker, context, rfl, ?_⟩
            rw [State.recordsFor, State.request, running, Option.bind_some, own,
              ← recordsFor_recording service worker, ← same]
          · left
            simp only [act]
            rw [same]
            exact service.recording_spares worker context recorded verdict state.table row
              stored own

/-- Only receiving adds to the receipts. -/
theorem receipts_kept {label : Label Worker Row Ask Arrival Reply}
    {after : State Worker Row Ask Summary Arrival Receipt Reply}
    (stepped : step service state label = some after)
    (other : ∀ arrival, label ≠ .receive arrival) : after.receipts = state.receipts := by
  cases stepped_of_step stepped with
  | receive arrival => exact absurd rfl (other arrival)
  | reject | spawn | crash | act => rfl

/-- Only receiving touches the cards of the rows. -/
theorem Simulates.cards_kept (simulates : Simulates service state queue)
    {label : Label Worker Row Ask Arrival Reply}
    {after : State Worker Row Ask Summary Arrival Receipt Reply}
    (stepped : step service state label = some after)
    (other : ∀ arrival, label ≠ .receive arrival) :
    after.table.map (fun row => (service.entry row).card) =
      state.table.map (fun row => (service.entry row).card) := by
  have cards : ∀ rows : List Row, rows.map (fun row => (service.entry row).card) =
      (rows.map service.entry).map Entry.card := fun rows => by rw [List.map_map]; rfl
  cases stepped_of_step stepped with
  | receive arrival => exact absurd rfl (other arrival)
  | reject | spawn | crash => rfl
  | act worker context request resume running =>
      obtain ⟨reading, decided, _, _, conforms⟩ :=
        (simulates.follows worker).program _ _ running
      cases request with
      | utcnow | ask => rfl
      | reclaimAndClaim query now =>
          obtain ⟨chosen, _, lent⟩ := service.refines.lends worker query
            (conforms.2.2.1 ▸ service.offered worker) context.choices now state.table
            simulates.ids_nodup
          rw [cards, cards]
          simp only [act, Store.perform]
          rw [lent, cards_lend, cards_sweep]
      | markDone | handleRetryableFailure | markFailed =>
          obtain ⟨rest, ⟨recorded, verdict, _, _, same⟩, _⟩ := conforms
          rw [cards, cards]
          simp only [act]
          rw [same, service.perform_recording, cards_record]

/-- A record that a worker holds after a step was held before, or has just been
claimed and is in processing. -/
theorem Simulates.held_step (simulates : Simulates service state queue)
    {label : Label Worker Row Ask Arrival Reply}
    {after : State Worker Row Ask Summary Arrival Receipt Reply}
    (stepped : step service state label = some after) {worker : Worker} {record : Row}
    (held : record ∈ (after.process worker).held) :
    record ∈ (state.process worker).held ∨
      ∃ row ∈ after.table, service.entry row = service.entry record ∧
        (service.entry record).phase = .processing := by
  cases stepped_of_step stepped with
  | receive | reject => exact .inl held
  | spawn other | crash other =>
      by_cases same : worker = other
      · subst same
        simp at held
      · exact .inl (by simpa [same] using held)
  | act other context request resume running =>
      by_cases same : worker = other
      · subst same
        simp only [act, if_true] at held
        cases request with
        | utcnow | ask | markDone | handleRetryableFailure | markFailed =>
            exact .inl (List.mem_of_mem_eraseP held)
        | reclaimAndClaim query now =>
            obtain ⟨_, _, _, _, conforms⟩ := (simulates.follows worker).program _ _ running
            obtain ⟨processing, _, row, stored, viewed⟩ := claimed_stored
              (conforms.2.2.1 ▸ service.offered worker) context.choices now
              simulates.ids_nodup held
            exact .inr ⟨row, stored, viewed, processing⟩
      · simp only [act, same, if_false] at held
        left
        cases request <;> exact held

omit [DecidableEq Worker] in
/-- With tenure, a worker that is about to call back about a terminal row has lost the row. -/
theorem Simulates.asked_evicted (simulates : Simulates service state queue)
    (tenure : Tenure queue) {worker : Worker} {query : Ask}
    (asks : state.request worker = some (.ask query)) {row : Row} (stored : row ∈ state.table)
    (terminal : (service.entry row).phase.terminal = true)
    (sameId : service.store.id (service.subject query) = service.store.id row) :
    service.store.id row ∈ (state.process worker).evicted := by
  by_contra kept
  have held := simulates.mem_held (simulates.asked asks).1
  have lent := ((simulates.sound.sessions worker).held_lent _ held).1
  have found := tenure.stored worker _ held (by
    rw [service.refines.id_entry, sameId, (simulates.follows worker).evicted]
    exact kept)
  rw [simulates.entries, List.mem_map] at found
  obtain ⟨other, otherMem, viewed⟩ := found
  have same := List.inj_on_of_nodup_map simulates.ids_nodup otherMem stored
    (by rw [← service.refines.id_entry, viewed, service.refines.id_entry, sameId])
  rw [← viewed, same] at lent
  simp [lent, Phase.terminal] at terminal

/-- Without late outcomes a terminal row stays as it is, and no pass comes to hold a
record of it. -/
theorem Simulates.absorbing (simulates : Simulates service start queue)
    (tenure : Tenure queue) (path : (machine service).Path Current start finish)
    {row : Row} (stored : row ∈ start.table)
    (terminal : (service.entry row).phase.terminal = true) :
    row ∈ finish.table ∧ ∀ worker, ∀ record ∈ (finish.process worker).held,
      service.store.id record = service.store.id row →
        record ∈ (start.process worker).held := by
  suffices invariant : (∃ queue, Simulates service finish queue ∧ Tenure queue) ∧
      row ∈ finish.table ∧ ∀ worker, ∀ record ∈ (finish.process worker).held,
        service.store.id record = service.store.id row →
          record ∈ (start.process worker).held from invariant.2
  induction path with
  | refl => exact ⟨⟨queue, simulates, tenure⟩, stored, fun _ _ held _ => held⟩
  | tail _ last ih =>
      obtain ⟨label, current, stepped⟩ := last
      obtain ⟨⟨queue, simulates, tenure⟩, kept, earlier⟩ := ih
      have tenured := simulates.tenure_of_path tenure
        (Machine.path_single label current stepped)
      have keptNow := (simulates.terminal_step stepped kept terminal).resolve_right (by
        rintro ⟨worker, context, rfl, records⟩
        obtain ⟨record, _, other, _, sameId, otherMem, viewed, processing⟩ :=
          simulates.record_meets tenure records (current _ records)
        have same := List.inj_on_of_nodup_map simulates.ids_nodup otherMem kept
          (by rw [← service.refines.id_entry, viewed, service.refines.id_entry, sameId])
        rw [same] at processing
        simp [processing, Phase.terminal] at terminal)
      refine ⟨tenured, keptNow, fun worker record held sameId => ?_⟩
      rcases simulates.held_step stepped held with before | ⟨other, otherMem, viewed, lent⟩
      · exact earlier worker record before sameId
      · obtain ⟨later, simulated, _⟩ := tenured
        have same := List.inj_on_of_nodup_map simulated.ids_nodup otherMem keptNow
          (by rw [← service.refines.id_entry, viewed, service.refines.id_entry, sameId])
        rw [← viewed, same] at lent
        simp [lent, Phase.terminal] at terminal

end Pactix.Worker
