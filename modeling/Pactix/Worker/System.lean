import Pactix.Foundation.Machine
import Pactix.Queue.Order
import Pactix.Worker.Service

/-!
# Any number of workers on one table

The machine interleaves the passes of all workers call by call, together with
producers.  A label carries what is decided outside of the code: the clock, the
database's choices, and the replies of the application.
-/

namespace Pactix.Worker

open Foundation Queue

variable {Worker Row Ask Summary Arrival Receipt Body : Type} {Reply : Ask → Type}

/-- One worker.  `held` and `evicted` are history variables: the claimed records
for which this pass has recorded no outcome yet, and the rows that claims of other
workers have reclaimed since. -/
structure Process (Row Ask Summary : Type) (Reply : Ask → Type) where
  program : Option (Pass Row Ask Reply Summary) := none
  held : List Row := []
  evicted : List UUID := []

/-- A reply that some callback gave. -/
structure Consultation (Worker Ask : Type) (Reply : Ask → Type) where
  worker : Worker
  query : Ask
  reply : Reply query

/-- The table, the clock, the workers, and two histories, newest first: the replies
of callbacks and the receipts of producers. -/
structure State (Worker Row Ask Summary Arrival Receipt : Type) (Reply : Ask → Type) where
  table : List Row
  clock : Int
  process : Worker → Process Row Ask Summary Reply
  consulted : List (Consultation Worker Ask Reply)
  receipts : List (Arrival × Receipt)

/-- What can happen next. -/
inductive Label (Worker Row Ask Arrival : Type) (Reply : Ask → Type) where
  /-- A producer's transaction. -/
  | receive (arrival : Arrival)
  /-- A worker begins a pass. -/
  | spawn (worker : Worker)
  /-- A worker dies. -/
  | crash (worker : Worker)
  /-- A worker performs the next call of its pass. -/
  | act (worker : Worker) (context : Context Row Ask Reply)

/-- An empty table and idle workers. -/
def State.initial (clock : Int) : State Worker Row Ask Summary Arrival Receipt Reply where
  table := []
  clock
  process _ := {}
  consulted := []
  receipts := []

namespace Process

/-- The history of one's own call. -/
def after (id : Row → UUID) (process : Process Row Ask Summary Reply) :
    (request : Call Ask) → Answer Row Reply request → Pass Row Ask Reply Summary →
      Process Row Ask Summary Reply
  | .reclaimAndClaim _ _, (_, claimed), program =>
      { program := some program, held := claimed, evicted := [] }
  | request, _, program =>
      { process with
        program := some program
        held := process.held.eraseP fun row => request.recordsFor = some (id row) }

@[simp] theorem after_utcnow (id : Row → UUID) (process : Process Row Ask Summary Reply)
    (now : DateTime) (program : Pass Row Ask Reply Summary) :
    process.after id .utcnow now program = { process with program := some program } := by
  simp [after, Call.recordsFor]

@[simp] theorem after_ask (id : Row → UUID) (process : Process Row Ask Summary Reply)
    (query : Ask) (reply : Except Error (Reply query)) (program : Pass Row Ask Reply Summary) :
    process.after id (.ask query) reply program = { process with program := some program } := by
  simp [after, Call.recordsFor]

/-- The history of another worker's call. -/
def during (reclaimed : List UUID) (process : Process Row Ask Summary Reply) :
    Call Ask → Process Row Ask Summary Reply
  | .reclaimAndClaim _ _ => { process with evicted := process.evicted ++ reclaimed }
  | _ => process

end Process

/-- What a call adds to the history of replies. -/
def consultation (worker : Worker) :
    (request : Call Ask) → Answer Row Reply request → List (Consultation Worker Ask Reply)
  | .ask query, .ok reply => [⟨worker, query, reply⟩]
  | _, _ => []

section Recording

variable (service : Service Worker Row Ask Summary Arrival Receipt Body Reply)

@[simp] theorem recordsFor_recording (worker : Worker) (row : Row) (verdict : Verdict) :
    ((service.routine worker).recording row verdict).recordsFor =
      some (service.store.id row) := by
  cases verdict <;> simp [Routine.recording, Call.recordsFor, service.routine_id]

@[simp] theorem Process.during_recording (reclaimed : List UUID)
    (process : Process Row Ask Summary Reply) (worker : Worker) (row : Row)
    (verdict : Verdict) :
    process.during reclaimed ((service.routine worker).recording row verdict) = process := by
  cases verdict <;> rfl

@[simp] theorem consultation_recording (worker : Worker) (row : Row) (verdict : Verdict)
    (answer : Answer Row Reply ((service.routine worker).recording row verdict)) :
    consultation worker ((service.routine worker).recording row verdict) answer = [] := by
  cases verdict <;> rfl

/-- Recording the verdict about the head of the batch takes it off the batch. -/
theorem Process.after_recording {process : Process Row Ask Summary Reply} {worker : Worker}
    {row : Row} {rest : List Row} {verdict : Verdict} (held : process.held = row :: rest)
    (answer : Answer Row Reply ((service.routine worker).recording row verdict))
    (program : Pass Row Ask Reply Summary) :
    process.after service.store.id ((service.routine worker).recording row verdict) answer
        program = { process with program := some program, held := rest } := by
  cases verdict <;>
    simp [Routine.recording, Process.after, Call.recordsFor, service.routine_id, held]

end Recording

section Step

variable [DecidableEq Worker]
variable (service : Service Worker Row Ask Summary Arrival Receipt Body Reply)

/-- The rows that a call reclaims. -/
def reclaimed (table : List Row) : Call Ask → List UUID
  | .reclaimAndClaim _ now => Queue.evicted now.instant (table.map service.entry)
  | _ => []

/-- A worker's program has the call `request` next and goes on with `resume`. -/
def act (state : State Worker Row Ask Summary Arrival Receipt Reply) (worker : Worker)
    (context : Context Row Ask Reply) (request : Call Ask)
    (resume : Answer Row Reply request → Pass Row Ask Reply Summary) :
    State Worker Row Ask Summary Arrival Receipt Reply :=
  let (answer, table) := service.store.perform worker context request state.table
  { table
    clock := context.time
    process := fun other =>
      if other = worker then
        (state.process worker).after service.store.id request answer (resume answer)
      else
        (state.process other).during (reclaimed service state.table request) request
    consulted := consultation worker request answer ++ state.consulted
    receipts := state.receipts }

/-- The transition function. -/
def step (state : State Worker Row Ask Summary Arrival Receipt Reply) :
    Label Worker Row Ask Arrival Reply →
      Option (State Worker Row Ask Summary Arrival Receipt Reply)
  | .receive arrival =>
      match service.store.receive arrival state.table with
      | .ok (table, receipt) =>
          some { state with table, receipts := (arrival, receipt) :: state.receipts }
      -- The producer's transaction is rolled back.
      | .error _ => some state
  | .spawn worker =>
      let process : Process Row Ask Summary Reply := { program := some (service.runOnce worker) }
      some { state with process := Function.update state.process worker process }
  | .crash worker => some { state with process := Function.update state.process worker {} }
  | .act worker context =>
      match (state.process worker).program with
      | some (.call request resume) => some (act service state worker context request resume)
      | _ => none

/-- What a step can be. -/
inductive Stepped (state : State Worker Row Ask Summary Arrival Receipt Reply) :
    Label Worker Row Ask Arrival Reply → State Worker Row Ask Summary Arrival Receipt Reply →
      Prop where
  | receive (arrival : Arrival) (table : List Row) (receipt : Receipt)
      (received : service.store.receive arrival state.table = .ok (table, receipt)) :
      Stepped state (.receive arrival)
        { state with table, receipts := (arrival, receipt) :: state.receipts }
  | reject (arrival : Arrival) : Stepped state (.receive arrival) state
  | spawn (worker : Worker) :
      Stepped state (.spawn worker)
        { state with process :=
            Function.update state.process worker { program := some (service.runOnce worker) } }
  | crash (worker : Worker) :
      Stepped state (.crash worker)
        { state with process := Function.update state.process worker {} }
  | act (worker : Worker) (context : Context Row Ask Reply) (request : Call Ask)
      (resume : Answer Row Reply request → Pass Row Ask Reply Summary)
      (running : (state.process worker).program = some (.call request resume)) :
      Stepped state (.act worker context) (act service state worker context request resume)

variable {service} in
theorem stepped_of_step {state after : State Worker Row Ask Summary Arrival Receipt Reply}
    {label : Label Worker Row Ask Arrival Reply}
    (stepped : step service state label = some after) : Stepped service state label after := by
  cases label with
  | receive arrival =>
      simp only [step] at stepped
      split at stepped
      next table receipt received =>
        obtain rfl := Option.some.inj stepped
        exact .receive arrival table receipt received
      next =>
        obtain rfl := Option.some.inj stepped
        exact .reject arrival
  | spawn worker =>
      obtain rfl := Option.some.inj stepped
      exact .spawn worker
  | crash worker =>
      obtain rfl := Option.some.inj stepped
      exact .crash worker
  | act worker context =>
      simp only [step] at stepped
      split at stepped
      next request resume running =>
        obtain rfl := Option.some.inj stepped
        exact .act worker context request resume running
      next => simp at stepped

/-- The machine of a service. -/
def machine : Machine (State Worker Row Ask Summary Arrival Receipt Reply)
    (Label Worker Row Ask Arrival Reply) := ⟨step service⟩

end Step

/-! ## Disciplines -/

section Disciplines

variable (service : Service Worker Row Ask Summary Arrival Receipt Body Reply)

/-- The next call of a worker. -/
def State.request (state : State Worker Row Ask Summary Arrival Receipt Reply)
    (worker : Worker) : Option (Call Ask) :=
  match (state.process worker).program with
  | some (.call request _) => some request
  | _ => none

/-- The row for which a worker is about to record an outcome. -/
def State.recordsFor (state : State Worker Row Ask Summary Arrival Receipt Reply)
    (worker : Worker) : Option UUID :=
  (state.request worker).bind Call.recordsFor

/-- All readings come from one clock that never goes back. -/
def Clocked (state : State Worker Row Ask Summary Arrival Receipt Reply) :
    Label Worker Row Ask Arrival Reply → Prop
  | .act _ context => state.clock ≤ context.time
  | _ => True

/-- An outcome is recorded no later than the `lease_until` of the claimed record. -/
def Timely (state : State Worker Row Ask Summary Arrival Receipt Reply) :
    Label Worker Row Ask Arrival Reply → Prop
  | .act worker context => ∀ id ∈ state.recordsFor worker,
      ∀ row ∈ (state.process worker).held, service.store.id row = id →
        ∀ lease ∈ service.store.leaseUntil row, context.time ≤ lease.instant
  | _ => True

/-- An outcome is recorded for a row only while nobody has reclaimed the row from
the worker. -/
def Current (state : State Worker Row Ask Summary Arrival Receipt Reply) :
    Label Worker Row Ask Arrival Reply → Prop
  | .act worker _ => ∀ id ∈ state.recordsFor worker, id ∉ (state.process worker).evicted
  | _ => True

/-- A failed attempt is recorded only while the stored row counts as many attempts as the
claimed record. -/
def Abreast (state : State Worker Row Ask Summary Arrival Receipt Reply) :
    Label Worker Row Ask Arrival Reply → Prop
  | .act worker _ => ∀ id ∈ (state.request worker).bind Call.fails,
      ∀ record ∈ (state.process worker).held, service.store.id record = id →
        ∀ row ∈ state.table, service.store.id row = id →
          (service.entry row).attempts = (service.entry record).attempts
  | _ => True

/-- A condition on the row that a producer adds to a table. -/
def Arriving (Admits : List Row → Row → Prop)
    (state : State Worker Row Ask Summary Arrival Receipt Reply) :
    Label Worker Row Ask Arrival Reply → Prop
  | .receive arrival => ∀ outcome ∈ (service.store.receive arrival state.table).toOption,
      ∀ row ∈ outcome.1, service.store.id row ∉ state.table.map service.store.id →
        Admits state.table row
  | _ => True

/-- The rows of one event type and ordering key are committed in the order of
their, strictly increasing, time of arrival. -/
def Serial (table : List Row) (row : Row) : Prop :=
  (service.entry row).card.key ≠ none →
    ∀ stored ∈ table, (service.entry stored).card.key = (service.entry row).card.key →
      (service.entry stored).card.stamp < (service.entry row).card.stamp

/-- A new row ties with no unfinished row of its event type and ordering key, and
comes before none that is in processing. -/
def Placed (table : List Row) (row : Row) : Prop :=
  (service.entry row).card.key ≠ none →
    ∀ stored ∈ table, (service.entry stored).card.key = (service.entry row).card.key →
      ((service.entry stored).phase.terminal = false →
          (service.entry stored).card.stamp ≠ (service.entry row).card.stamp) ∧
        ((service.entry stored).phase = .processing →
          (service.entry stored).card.stamp ≤ (service.entry row).card.stamp)

/-! Disciplines can be checked on concrete runs.  Ids form a finite type, so the
instances say that only the optional id is looked at. -/

section Decidable

variable (state : State Worker Row Ask Summary Arrival Receipt Reply)

instance (label : Label Worker Row Ask Arrival Reply) : Decidable (Clocked state label) :=
  match label with
  | .act _ context => inferInstanceAs (Decidable (state.clock ≤ context.time))
  | .receive _ | .spawn _ | .crash _ => isTrue trivial

instance (label : Label Worker Row Ask Arrival Reply) :
    Decidable (Timely service state label) :=
  match label with
  | .act worker context => @Option.decidableForallMem _
      (fun id => ∀ row ∈ (state.process worker).held, service.store.id row = id →
        ∀ lease ∈ service.store.leaseUntil row, context.time ≤ lease.instant)
      (fun _ => inferInstance) (state.recordsFor worker)
  | .receive _ | .spawn _ | .crash _ => isTrue trivial

instance (label : Label Worker Row Ask Arrival Reply) : Decidable (Current state label) :=
  match label with
  | .act worker _ => @Option.decidableForallMem _
      (fun id => id ∉ (state.process worker).evicted) (fun _ => inferInstance)
      (state.recordsFor worker)
  | .receive _ | .spawn _ | .crash _ => isTrue trivial

instance (label : Label Worker Row Ask Arrival Reply) :
    Decidable (Abreast service state label) :=
  match label with
  | .act worker _ => @Option.decidableForallMem _
      (fun id => ∀ record ∈ (state.process worker).held, service.store.id record = id →
        ∀ row ∈ state.table, service.store.id row = id →
          (service.entry row).attempts = (service.entry record).attempts)
      (fun _ => inferInstance) ((state.request worker).bind Call.fails)
  | .receive _ | .spawn _ | .crash _ => isTrue trivial

instance (Admits : List Row → Row → Prop) [∀ table row, Decidable (Admits table row)]
    (label : Label Worker Row Ask Arrival Reply) :
    Decidable (Arriving service Admits state label) :=
  match label with
  | .receive arrival => inferInstanceAs (Decidable (
      ∀ outcome ∈ (service.store.receive arrival state.table).toOption, ∀ row ∈ outcome.1,
        service.store.id row ∉ state.table.map service.store.id → Admits state.table row))
  | .spawn _ | .crash _ | .act _ _ => isTrue trivial

instance (table : List Row) (row : Row) : Decidable (Serial service table row) :=
  inferInstanceAs (Decidable ((service.entry row).card.key ≠ none →
    ∀ stored ∈ table, (service.entry stored).card.key = (service.entry row).card.key →
      (service.entry stored).card.stamp < (service.entry row).card.stamp))

instance (table : List Row) (row : Row) : Decidable (Placed service table row) :=
  inferInstanceAs (Decidable ((service.entry row).card.key ≠ none →
    ∀ stored ∈ table, (service.entry stored).card.key = (service.entry row).card.key →
      ((service.entry stored).phase.terminal = false →
          (service.entry stored).card.stamp ≠ (service.entry row).card.stamp) ∧
        ((service.entry stored).phase = .processing →
          (service.entry stored).card.stamp ≤ (service.entry row).card.stamp)))

end Decidable

end Disciplines

end Pactix.Worker
