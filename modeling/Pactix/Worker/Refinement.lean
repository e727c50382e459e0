import Pactix.Queue.Outcome
import Pactix.Worker.Conformance
import Pactix.Worker.System

/-!
# The machine refines the queue

Every step of the machine is answered by at most one step of the leased queue, and
the disciplines of the machine become those of the queue.  What holds along the runs
of the queue therefore holds along the runs of any service.
-/

namespace Pactix.Worker

open Foundation Queue

variable {Worker Row Ask Summary Arrival Receipt Body : Type} {Reply : Ask → Type}
variable (service : Service Worker Row Ask Summary Arrival Receipt Body Reply)

/-- The queues that services refine. -/
abbrev QueueState (Worker Body : Type) := Queue.State Worker UUID (String × String) Int Body

/-- A worker's session in the queue. -/
structure Follows (worker : Worker) (process : Process Row Ask Summary Reply)
    (session : Session UUID (String × String) Int Body) : Prop where
  held : session.held = process.held.map service.entry
  evicted : session.evicted = process.evicted
  /-- A verdict waits to be recorded. -/
  waiting : session.decided ≠ none → ∃ request resume, process.program = some (.call request resume)
  program : ∀ request resume, process.program = some (.call request resume) →
    ∃ reading decided, session.reading = reading.map DateTime.instant ∧
      session.decided = decided.map (fun decision : Row × Verdict =>
        (service.entry decision.1, decision.2)) ∧
      Conforms service worker reading process.held decided (.call request resume)

/-- A state of the machine and the queue it represents. -/
structure Simulates (state : State Worker Row Ask Summary Arrival Receipt Reply)
    (queue : QueueState Worker Body) : Prop where
  sound : Integrity queue
  entries : queue.entries = state.table.map service.entry
  clock : queue.clock = state.clock
  follows : ∀ worker, Follows service worker (state.process worker) (queue.session worker)
  /-- Verdicts are given by callbacks. -/
  consulted : ∀ entry verdict, (entry, verdict) ∈ queue.verdicts →
    ∃ consultation ∈ state.consulted,
      service.uses consultation.worker consultation.query ∧
      service.entry (service.subject consultation.query) = entry ∧
      service.judge consultation.query consultation.reply = some verdict

/-- The disciplines that a step of the machine hands to its answer. -/
structure Licenses (state : State Worker Row Ask Summary Arrival Receipt Reply)
    (label : Label Worker Row Ask Arrival Reply) (queue : QueueState Worker Body)
    (action : Action Worker UUID (String × String) Int Body) : Prop where
  clocked : Clocked state label → Queue.Clocked queue action
  timely : Timely service state label → Queue.Timely queue action
  current : Current state label → Queue.Current queue action
  abreast : Abreast service state label → Queue.Abreast queue action
  grouped : (∀ worker, service.query worker = .fifo) → Queue.Grouped queue action
  arriving : ∀ entry, action = .append entry → ∃ row, service.entry row = entry ∧
    ∀ Admits, Arriving service Admits state label → Admits state.table row

/-- The action with which the queue answers a step of the machine.  Duplicates that are
received have none. -/
inductive Mirrors (state : State Worker Row Ask Summary Arrival Receipt Reply)
    (queue : QueueState Worker Body) :
    Label Worker Row Ask Arrival Reply →
      Action Worker UUID (String × String) Int Body → Prop where
  | append (arrival : Arrival) (row : Row) (receipt : Receipt)
      (received : service.store.receive arrival state.table = .ok (state.table ++ [row], receipt))
      (unknown : service.store.id row ∉ state.table.map service.store.id) :
      Mirrors state queue (.receive arrival) (.append (service.entry row))
  | spawn (worker : Worker) : Mirrors state queue (.spawn worker) (.start worker)
  | crash (worker : Worker) : Mirrors state queue (.crash worker) (.start worker)
  | read (worker : Worker) (context : Context Row Ask Reply)
      (requests : state.request worker = some .utcnow) :
      Mirrors state queue (.act worker context) (.read worker context.time)
  | claim (worker : Worker) (context : Context Row Ask Reply) (now : DateTime) (lease : Int)
      (chosen : UUID → Bool) (batch : List (Entry UUID (String × String) Int Body))
      (requests : state.request worker = some (.reclaimAndClaim (service.query worker) now))
      (idle : (queue.session worker).held = []) :
      Mirrors state queue (.act worker context)
        (.claim worker context.time now.instant lease (decide (service.query worker = .fifo))
          chosen batch)
  | consult (worker : Worker) (context : Context Row Ask Reply) (query : Ask)
      (requests : state.request worker = some (.ask query))
      (unsettled : ∀ reply, context.reply query = .ok reply → service.judge query reply = none) :
      Mirrors state queue (.act worker context) (.consult worker context.time)
  | decide (worker : Worker) (context : Context Row Ask Reply) (query : Ask)
      (reply : Reply query) (verdict : Verdict)
      (requests : state.request worker = some (.ask query))
      (undecided : (queue.session worker).decided = none)
      (replied : context.reply query = .ok reply)
      (judged : service.judge query reply = some verdict) :
      Mirrors state queue (.act worker context)
        (.decide worker context.time (service.entry (service.subject query)) verdict)
  | record (worker : Worker) (context : Context Row Ask Reply) (row : Row) (rest : List Row)
      (verdict : Verdict)
      (requests : state.request worker = some ((service.routine worker).recording row verdict))
      (held : (state.process worker).held = row :: rest)
      (decided : (queue.session worker).decided = some (service.entry row, verdict)) :
      Mirrors state queue (.act worker context)
        (.record worker context.time (service.retryAt worker context row))

variable {service}

theorem Simulates.initial (clock : Int) :
    Simulates service (.initial clock) (.initial clock) where
  sound := .initial clock
  entries := rfl
  clock := rfl
  follows := fun _ => ⟨rfl, rfl, fun settled => absurd rfl settled, by simp [State.initial]⟩
  consulted := by simp [Queue.State.initial]

namespace Simulates

variable {state : State Worker Row Ask Summary Arrival Receipt Reply}
  {queue : QueueState Worker Body}

theorem ids_nodup (simulates : Simulates service state queue) :
    (state.table.map service.store.id).Nodup := by
  have distinct := simulates.sound.ids_nodup
  simpa [Queue.State.cards, simulates.entries, List.map_map, Function.comp_def,
    service.refines.id_entry] using distinct

/-- The stored entries are those of the stored rows. -/
theorem mem_entries (simulates : Simulates service state queue) {row : Row}
    (stored : row ∈ state.table) : service.entry row ∈ queue.entries := by
  rw [simulates.entries]
  exact List.mem_map_of_mem stored

/-- A held record is a held entry. -/
theorem mem_held (simulates : Simulates service state queue) {worker : Worker} {row : Row}
    (held : row ∈ (state.process worker).held) :
    service.entry row ∈ (queue.session worker).held := by
  rw [(simulates.follows worker).held]
  exact List.mem_map_of_mem held

/-- A verdict that a worker has come to is about the head of its batch, and recording it is
the worker's next call. -/
theorem settled (simulates : Simulates service state queue) {worker : Worker}
    {entry : Entry UUID (String × String) Int Body} {verdict : Verdict}
    (decided : (queue.session worker).decided = some (entry, verdict)) :
    ∃ row rest, (state.process worker).held = row :: rest ∧ service.entry row = entry ∧
      state.request worker = some ((service.routine worker).recording row verdict) := by
  have follows := simulates.follows worker
  obtain ⟨request, resume, running⟩ := follows.waiting (by simp [decided])
  obtain ⟨reading, settled, _, sameDecided, conforms⟩ := follows.program request resume running
  have requested : state.request worker = some request := by
    simp only [State.request, running]
  cases settled with
  | none => simp [decided] at sameDecided
  | some settled =>
      have recorded : ∀ rest, Settles service worker (state.process worker).held rest
          (some settled) request →
          ∃ row rest, (state.process worker).held = row :: rest ∧ service.entry row = entry ∧
            state.request worker = some ((service.routine worker).recording row verdict) := by
        rintro rest ⟨row, given, held, same, rfl⟩
        cases same
        rw [decided, Option.map_some, Option.some.injEq, Prod.mk.injEq] at sameDecided
        obtain ⟨rfl, rfl⟩ := sameDecided
        exact ⟨row, rest, held, rfl, requested⟩
      cases request with
      | utcnow => simp [Conforms] at conforms
      | ask query => simp [Conforms] at conforms
      | reclaimAndClaim query now =>
          have head := ((simulates.sound.sessions worker).decided_head entry verdict decided).1
          rw [follows.held, conforms.2.1] at head
          simp at head
      | markDone | handleRetryableFailure | markFailed =>
          obtain ⟨rest, settles, _⟩ := conforms
          exact recorded rest settles

end Simulates

section Answer

variable [DecidableEq Worker]
variable {state : State Worker Row Ask Summary Arrival Receipt Reply}
  {queue : QueueState Worker Body}

/-- The queue answers a step of the machine with one step, or, when a duplicate is
received, with none. -/
def Answers (service : Service Worker Row Ask Summary Arrival Receipt Body Reply)
    (state : State Worker Row Ask Summary Arrival Receipt Reply)
    (label : Label Worker Row Ask Arrival Reply)
    (after : State Worker Row Ask Summary Arrival Receipt Reply)
    (queue : QueueState Worker Body) : Prop :=
  (∃ arrival, label = .receive arrival) ∧ Simulates service after queue ∨
    ∃ action queueAfter, Step queue action queueAfter ∧
    Licenses service state label queue action ∧ Simulates service after queueAfter

/-- The queue answers with an action that mirrors the step. -/
def Mirrored (service : Service Worker Row Ask Summary Arrival Receipt Body Reply)
    (state : State Worker Row Ask Summary Arrival Receipt Reply)
    (label : Label Worker Row Ask Arrival Reply)
    (after : State Worker Row Ask Summary Arrival Receipt Reply)
    (queue : QueueState Worker Body) : Prop :=
  (∃ arrival, label = .receive arrival) ∧ Simulates service after queue ∨
    ∃ action queueAfter, Step queue action queueAfter ∧
    Mirrors service state queue label action ∧ Simulates service after queueAfter

omit [DecidableEq Worker] in
/-- The queue's clock moves with the machine's. -/
theorem Simulates.clocked (simulates : Simulates service state queue) {worker : Worker}
    {context : Context Row Ask Reply}
    {action : Action Worker UUID (String × String) Int Body}
    (timed : action.time = some context.time)
    (clocked : Clocked state (.act worker context)) : Queue.Clocked queue action := by
  intro time shown
  rw [timed, Option.some.injEq] at shown
  rw [simulates.clock, ← shown]
  exact clocked

omit [DecidableEq Worker] in
/-- An action that neither appends nor claims nor records only has to keep time. -/
theorem Licenses.of_clocked {label : Label Worker Row Ask Arrival Reply}
    {action : Action Worker UUID (String × String) Int Body}
    (clocked : Clocked state label → Queue.Clocked queue action)
    (notAppend : ∀ entry, action ≠ .append entry)
    (notClaim : ∀ worker time now lease fifo chosen batch,
      action ≠ .claim worker time now lease fifo chosen batch)
    (notRecord : ∀ worker time due, action ≠ .record worker time due) :
    Licenses service state label queue action where
  clocked := clocked
  timely := fun _ worker time due same => absurd same (notRecord worker time due)
  current := fun _ worker time due same => absurd same (notRecord worker time due)
  abreast := fun _ worker time due same => absurd same (notRecord worker time due)
  grouped := fun _ worker time now lease fifo chosen batch same =>
    absurd same (notClaim worker time now lease fifo chosen batch)
  arriving := fun entry same => absurd same (notAppend entry)

/-- Only one worker's process and session have changed. -/
theorem Simulates.follows_update (simulates : Simulates service state queue)
    {worker : Worker} {process : Process Row Ask Summary Reply}
    {session : Session UUID (String × String) Int Body}
    (follows : Follows service worker process session) (other : Worker) :
    Follows service other (if other = worker then process else state.process other)
      (Function.update queue.session worker session other) := by
  by_cases same : other = worker
  · subst same
    simpa using follows
  · simpa [same] using simulates.follows other

/-- Starting over, with or without a program. -/
theorem Simulates.start (simulates : Simulates service state queue) {worker : Worker}
    {program : Option (Pass Row Ask Reply Summary)}
    (conforms : ∀ pass, program = some pass → Conforms service worker none [] none pass)
    {label : Label Worker Row Ask Arrival Reply}
    (mirrors : Mirrors service state queue label (.start worker)) :
    Mirrored service state label
      { state with process := Function.update state.process worker { program } } queue := by
  refine .inr ⟨.start worker, _, .start worker, mirrors, ?_⟩
  refine ⟨simulates.sound.step (.start worker), simulates.entries, simulates.clock, ?_,
    simulates.consulted⟩
  intro other
  have follows : Follows service worker { program } {} :=
    ⟨rfl, rfl, fun settled => absurd rfl settled,
      fun _ _ running => ⟨none, none, rfl, rfl, conforms _ running⟩⟩
  simpa [Function.update_apply] using simulates.follows_update follows other

/-- A committed receipt appends an entry, unless it was a duplicate. -/
theorem Simulates.receive (simulates : Simulates service state queue) {arrival : Arrival}
    {table : List Row} {receipt : Receipt}
    (received : service.store.receive arrival state.table = .ok (table, receipt)) :
    Mirrored service state (.receive arrival)
      { state with table, receipts := (arrival, receipt) :: state.receipts } queue := by
  rcases service.refines.receive received with rfl | ⟨row, rfl, fresh, unknown⟩
  · exact .inl ⟨⟨arrival, rfl⟩, simulates.sound, simulates.entries, simulates.clock,
      simulates.follows, simulates.consulted⟩
  · have stored : (service.entry row).card.id ∉
        queue.entries.map fun entry => entry.card.id := by
      simpa [simulates.entries, List.map_map, Function.comp_def, service.refines.id_entry]
        using unknown
    have appended : Step queue _ _ := .append (service.entry row) fresh stored
    exact .inr ⟨_, _, appended, .append arrival row receipt received unknown,
      simulates.sound.step appended, by simp [simulates.entries], simulates.clock,
      simulates.follows, simulates.consulted⟩

section Act

variable {worker : Worker} {context : Context Row Ask Reply}

omit [DecidableEq Worker] in
theorem request_of_running {request : Call Ask}
    {resume : Answer Row Reply request → Pass Row Ask Reply Summary}
    (running : (state.process worker).program = some (.call request resume)) :
    state.request worker = some request := by
  simp only [State.request, running]

theorem Simulates.utcnow (simulates : Simulates service state queue)
    {resume : DateTime → Pass Row Ask Reply Summary}
    (running : (state.process worker).program = some (.call .utcnow resume)) :
    Mirrored service state (.act worker context)
      (act service state worker context .utcnow resume) queue := by
  obtain ⟨reading, decided, _, sameDecided, undecided, conforms⟩ :=
    (simulates.follows worker).program _ _ running
  subst undecided
  have stepped : Step queue _ _ := .read worker context.time
  refine .inr ⟨_, _, stepped, .read worker context (request_of_running running),
    simulates.sound.step stepped, simulates.entries, rfl, ?_, simulates.consulted⟩
  intro other
  have follows : Follows service worker
      { state.process worker with program := some (resume (.utc context.time)) }
      { queue.session worker with reading := some context.time } :=
    ⟨(simulates.follows worker).held, (simulates.follows worker).evicted,
      fun settled => absurd sameDecided settled, by
      rintro request next started
      have sameProgram := Option.some.inj started
      exact ⟨some (.utc context.time), none, by simp, sameDecided,
        sameProgram ▸ conforms _⟩⟩
  simpa [act, Process.during, Store.perform] using
    simulates.follows_update follows other

/-- A reply settles the matter, or the worker asks on, or the pass is over. -/
theorem Simulates.ask (simulates : Simulates service state queue) {query : Ask}
    {resume : Except Error (Reply query) → Pass Row Ask Reply Summary}
    (running : (state.process worker).program = some (.call (.ask query) resume)) :
    Mirrored service state (.act worker context)
      (act service state worker context (.ask query) resume) queue := by
  obtain ⟨reading, decided, sameReading, sameDecided, undecided, uses, head, raised, replies⟩ :=
    (simulates.follows worker).program _ _ running
  subst undecided
  have idle : (queue.session worker).decided = none := by simpa using sameDecided
  -- Whatever the reply, only the program and the decision of the worker change.
  have follows : ∀ decided : Option (Row × Verdict),
      (decided ≠ none → ∃ request next, resume (context.reply query) = .call request next) →
      (∀ request next, resume (context.reply query) = .call request next →
        Conforms service worker reading (state.process worker).held decided
          (.call request next)) →
      Follows service worker
        { state.process worker with program := some (resume (context.reply query)) }
        { queue.session worker with
          decided := decided.map fun decision => (service.entry decision.1, decision.2) } :=
    fun decided waits conforms => ⟨(simulates.follows worker).held,
      (simulates.follows worker).evicted, fun settled => by
        obtain ⟨request, next, continued⟩ := waits fun none => settled (by rw [none]; rfl)
        exact ⟨request, next, congrArg some continued⟩,
      fun request next started =>
        ⟨reading, decided, sameReading, rfl, conforms request next (Option.some.inj started)⟩⟩
  -- Without a verdict the queue only sees time pass.
  have unsettled : (∀ reply, context.reply query = .ok reply →
        service.judge query reply = none) →
      (∀ request next, resume (context.reply query) = .call request next →
        Conforms service worker reading (state.process worker).held none
          (.call request next)) →
      Mirrored service state (.act worker context)
        (act service state worker context (.ask query) resume) queue := by
    intro noVerdict conforms
    have stepped : Step queue _ _ := .consult worker context.time
    refine .inr ⟨_, _, stepped,
      .consult worker context query (request_of_running running) noVerdict,
      simulates.sound.step stepped, simulates.entries, rfl, ?_, ?_⟩
    · intro other
      have same : { queue.session worker with decided := none } = queue.session worker := by
        rw [← idle]
      have updated := simulates.follows_update
        (follows none (fun settled => absurd rfl settled) conforms) other
      simp only [Option.map_none, same, Function.update_eq_self] at updated
      simpa [act, Process.during, Store.perform] using updated
    · intro entry verdict given
      obtain ⟨consultation, consulted, evidence⟩ := simulates.consulted entry verdict given
      exact ⟨consultation, List.mem_append_right _ consulted, evidence⟩
  cases replied : context.reply query with
  | error error =>
      apply unsettled
      · intro reply returned
        rw [replied] at returned
        cases returned
      · intro request next continued
        rw [replied, raised error] at continued
        simp at continued
  | ok reply =>
      have conforms := replies reply
      cases judged : service.judge query reply with
      | none =>
          apply unsettled
          · intro other returned
            rw [replied] at returned
            rw [← Except.ok.inj returned]
            exact judged
          · intro request next continued
            rw [judged] at conforms
            rw [← continued, replied]
            exact conforms
      | some verdict =>
          rw [judged, Option.map_some, ← replied] at conforms
          have atHead : (queue.session worker).held.head? =
              some (service.entry (service.subject query)) := by
            rw [(simulates.follows worker).held, List.head?_map, head]
            rfl
          -- The batch is not empty, so the pass is not over.
          have continues : ∃ request next, resume (context.reply query) = .call request next := by
            cases program : resume (context.reply query) with
            | call request next => exact ⟨request, next, rfl⟩
            | done result =>
                rw [program] at conforms
                rw [conforms.1] at head
                simp at head
          have stepped : Step queue _ _ := .decide worker context.time _ verdict atHead
          refine .inr ⟨_, _, stepped, .decide worker context query reply verdict
            (request_of_running running) idle replied judged, simulates.sound.step stepped,
            simulates.entries, rfl, ?_, ?_⟩
          · intro other
            have decided := follows (some (service.subject query, verdict)) (fun _ => continues)
              fun request next continued => continued ▸ conforms
            rw [Option.map_some] at decided
            simpa [act, Process.during, Store.perform] using
              simulates.follows_update decided other
          · intro entry given membership
            simp only [List.mem_cons, Prod.mk.injEq] at membership
            rcases membership with ⟨rfl, rfl⟩ | earlier
            · refine ⟨⟨worker, query, reply⟩, ?_, uses, rfl, judged⟩
              simp [act, Store.perform, replied, consultation]
            · obtain ⟨consultation, consulted, evidence⟩ :=
                simulates.consulted entry given earlier
              exact ⟨consultation, List.mem_append_right _ consulted, evidence⟩

/-- The claiming transaction. -/
theorem Simulates.reclaimAndClaim (simulates : Simulates service state queue)
    {query : ClaimQuery} {now : DateTime}
    {resume : Nat × List Row → Pass Row Ask Reply Summary}
    (running : (state.process worker).program =
      some (.call (.reclaimAndClaim query now) resume)) :
    Mirrored service state (.act worker context)
      (act service state worker context (.reclaimAndClaim query now) resume) queue := by
  obtain ⟨reading, decided, sameReading, _, read, idle, ownQuery, answers⟩ :=
    (simulates.follows worker).program _ _ running
  subst read ownQuery
  obtain ⟨chosen, lends, lent⟩ :=
    service.refines.lends worker (service.query worker) (service.offered worker) context.choices now
      state.table simulates.ids_nodup
  rw [← simulates.entries] at lends lent
  have stepped : Step queue _ _ := .claim worker context.time now.instant _ _ chosen _
    (by simpa using sameReading) lends
  have heldNone : (queue.session worker).held = [] := by
    rw [(simulates.follows worker).held, idle]
    rfl
  refine .inr ⟨_, _, stepped, .claim worker context now _ chosen _ (request_of_running running)
    heldNone, simulates.sound.step stepped, lent.symm, rfl, ?_, simulates.consulted⟩
  intro other
  by_cases own : other = worker
  · subst own
    have conforms := answers (service.store.reclaimAndClaim other (service.query other)
      context.choices now state.table).1
    simp only [act, if_true, claimSessions]
    exact ⟨rfl, rfl, fun settled => absurd rfl settled, fun request next started =>
      ⟨some now, none, sameReading, rfl, Option.some.inj started ▸ conforms⟩⟩
  · have follows := simulates.follows other
    simp only [act, own, if_false, claimSessions]
    refine ⟨follows.held, ?_, follows.waiting, follows.program⟩
    simp [Process.during, reclaimed, follows.evicted, simulates.entries]

/-- A verdict is recorded. -/
theorem Simulates.record (simulates : Simulates service state queue)
    {request : Call Ask} {resume : Answer Row Reply request → Pass Row Ask Reply Summary}
    (running : (state.process worker).program = some (.call request resume))
    {reading : Option DateTime} {decided : Option (Row × Verdict)} {rest : List Row}
    (sameReading : (queue.session worker).reading = reading.map DateTime.instant)
    (sameDecided : (queue.session worker).decided = decided.map
      fun decision : Row × Verdict => (service.entry decision.1, decision.2))
    (settles : Settles service worker (state.process worker).held rest decided request)
    (next : ∀ answer, Conforms service worker reading rest none (resume answer)) :
    Mirrored service state (.act worker context)
      (act service state worker context request resume) queue := by
  obtain ⟨row, verdict, held, rfl, rfl⟩ := settles
  have sessionHeld : (queue.session worker).held =
      service.entry row :: rest.map service.entry := by
    rw [(simulates.follows worker).held, held, List.map_cons]
  have stepped : Step queue _ _ := .record worker context.time
    (service.retryAt worker context row) _ _ verdict sessionHeld sameDecided
  refine .inr ⟨_, _, stepped, .record worker context row rest verdict (request_of_running running)
    held sameDecided, simulates.sound.step stepped, ?_, rfl, ?_, ?_⟩
  · rw [simulates.entries]
    exact (service.perform_recording worker context row verdict state.table).symm
  · intro other
    have follows : Follows service worker
        { state.process worker with
          program := some (resume (service.store.perform worker context
            ((service.routine worker).recording row verdict) state.table).1)
          held := rest }
        { queue.session worker with held := rest.map service.entry, decided := none } :=
      ⟨rfl, (simulates.follows worker).evicted, fun settled => absurd rfl settled,
        fun request resume started =>
          ⟨reading, none, sameReading, rfl, Option.some.inj started ▸ next _⟩⟩
    simpa [act, Process.after_recording service held] using
      simulates.follows_update follows other
  · intro entry given membership
    simpa [act] using simulates.consulted entry given membership

end Act

/-- Forward simulation: every step of the machine is mirrored. -/
theorem Simulates.mirrored (simulates : Simulates service state queue)
    {label : Label Worker Row Ask Arrival Reply}
    {after : State Worker Row Ask Summary Arrival Receipt Reply}
    (stepped : step service state label = some after) :
    Mirrored service state label after queue := by
  cases stepped_of_step stepped with
  | receive arrival table receipt received => exact simulates.receive received
  | reject arrival => exact .inl ⟨⟨arrival, rfl⟩, simulates⟩
  | spawn worker =>
      exact simulates.start (fun pass started => Option.some.inj started ▸ conforms_runOnce)
        (.spawn worker)
  | crash worker => exact simulates.start (fun pass started => by simp at started) (.crash worker)
  | act worker context request resume running =>
      obtain ⟨reading, decided, sameReading, sameDecided, conforms⟩ :=
        (simulates.follows worker).program _ _ running
      cases request with
      | utcnow => exact simulates.utcnow running
      | reclaimAndClaim query now => exact simulates.reclaimAndClaim running
      | ask query => exact simulates.ask running
      | markDone | handleRetryableFailure | markFailed =>
          obtain ⟨rest, settles, next⟩ := conforms
          exact simulates.record running sameReading sameDecided settles next

/-! ## Disciplines -/

section Disciplines

variable {worker : Worker} {context : Context Row Ask Reply}

omit [DecidableEq Worker] in
/-- A recording of a failure counts it for its record. -/
theorem fails_recording (worker : Worker) (row : Row) {verdict : Verdict}
    (fails : verdict ≠ .done) :
    ((service.routine worker).recording row verdict).fails = some (service.store.id row) := by
  cases verdict with
  | done => exact absurd rfl fails
  | terminal | retryable => simp [Routine.recording, Call.fails, service.routine_id]

omit [DecidableEq Worker] in
/-- A failure finds the count of its record in the machine and in the queue. -/
theorem Simulates.abreast_record (simulates : Simulates service state queue) {row : Row}
    {rest : List Row} {verdict : Verdict}
    (requests : state.request worker = some ((service.routine worker).recording row verdict))
    (held : (state.process worker).held = row :: rest)
    (decided : (queue.session worker).decided = some (service.entry row, verdict)) {due : Int}
    (abreast : Abreast service state (.act worker context)) :
    Queue.Abreast queue (.record worker context.time due) := by
  rintro other time later same entry given settled fails stored storedMem sameId
  simp only [Action.record.injEq] at same
  obtain ⟨rfl, rfl, -⟩ := same
  rw [decided, Option.some.injEq, Prod.mk.injEq] at settled
  obtain ⟨rfl, rfl⟩ := settled
  rw [simulates.entries, List.mem_map] at storedMem
  obtain ⟨found, foundMem, rfl⟩ := storedMem
  rw [service.refines.id_entry, service.refines.id_entry] at sameId
  have counted : (state.request worker).bind Call.fails = some (service.store.id row) := by
    rw [requests, Option.bind_some, fails_recording worker row fails]
  exact abreast _ counted row (held ▸ List.mem_cons_self) rfl found foundMem sameId

omit [DecidableEq Worker] in
/-- A held record is recorded under its lease in the machine and in the queue. -/
theorem Simulates.timely_record (simulates : Simulates service state queue) {row : Row}
    {rest : List Row} {verdict : Verdict}
    (requests : state.request worker = some ((service.routine worker).recording row verdict))
    (held : (state.process worker).held = row :: rest)
    (decided : (queue.session worker).decided = some (service.entry row, verdict)) {due : Int}
    (timely : Timely service state (.act worker context)) :
    Queue.Timely queue (.record worker context.time due) := by
  have recordsFor : state.recordsFor worker = some (service.store.id row) := by
    simp [State.recordsFor, requests]
  rintro other time due same entry given settled
  simp only [Action.record.injEq] at same
  obtain ⟨rfl, rfl, -⟩ := same
  rw [decided, Option.some.injEq, Prod.mk.injEq] at settled
  have lent := ((simulates.sound.sessions worker).held_lent (service.entry row)
    (by rw [(simulates.follows worker).held, held]; exact List.mem_cons_self)).2
  rw [service.refines.lease_entry, Option.isSome_map] at lent
  obtain ⟨lease, leased⟩ := Option.isSome_iff_exists.mp lent
  refine ⟨lease.instant, ?_, ?_⟩
  · rw [← settled.1, service.refines.lease_entry, leased, Option.map_some]
  · exact timely _ recordsFor row (by rw [held]; exact List.mem_cons_self) rfl lease leased

omit [DecidableEq Worker] in
/-- An action that mirrors a step is licensed by it. -/
theorem Mirrors.licenses {label : Label Worker Row Ask Arrival Reply}
    {action : Action Worker UUID (String × String) Int Body}
    (simulates : Simulates service state queue)
    (mirrors : Mirrors service state queue label action) :
    Licenses service state label queue action := by
  cases mirrors with
  | append arrival row receipt received unknown =>
      refine ⟨fun _ _ timed => by simp [Action.time] at timed,
        fun _ _ _ _ same => by simp at same, fun _ _ _ _ same => by simp at same,
        fun _ _ _ _ same => by simp at same,
        fun _ _ _ _ _ _ _ _ same => by simp at same, ?_⟩
      rintro entry same
      simp only [Action.append.injEq] at same
      refine ⟨row, same, fun Admits arriving => ?_⟩
      exact arriving (state.table ++ [row], receipt) (by simp [received, Except.toOption]) row
        (by simp) unknown
  | spawn worker | crash worker =>
      exact .of_clocked (fun _ _ timed => by simp [Action.time] at timed) (by simp) (by simp)
        (by simp)
  | read worker context requests =>
      exact .of_clocked (simulates.clocked rfl) (by simp) (by simp) (by simp)
  | consult worker context query requests | decide worker context query reply verdict requests =>
      exact .of_clocked (simulates.clocked rfl) (by simp) (by simp) (by simp)
  | claim worker context now lease chosen batch requests =>
      refine ⟨simulates.clocked rfl, fun _ _ _ _ same => by simp at same,
        fun _ _ _ _ same => by simp at same, fun _ _ _ _ same => by simp at same, ?_,
        fun _ same => by simp at same⟩
      rintro fifo other time reading lease gated picked batch same
      simp only [Action.claim.injEq] at same
      rw [← same.2.2.2.2.1, fifo worker]
      rfl
  | record worker context row rest verdict requests held decided =>
      refine ⟨simulates.clocked rfl, simulates.timely_record requests held decided, ?_,
        simulates.abreast_record requests held decided,
        fun _ _ _ _ _ _ _ _ same => by simp at same, fun _ same => by simp at same⟩
      rintro current other time due same entry given settled
      simp only [Action.record.injEq] at same
      obtain ⟨rfl, rfl, -⟩ := same
      rw [decided, Option.some.injEq, Prod.mk.injEq] at settled
      rw [← settled.1, service.refines.id_entry, (simulates.follows worker).evicted]
      exact current _ (by simp [State.recordsFor, requests])

end Disciplines

/-- Every step of the machine is answered by a step that it licenses. -/
theorem Simulates.answer (simulates : Simulates service state queue)
    {label : Label Worker Row Ask Arrival Reply}
    {after : State Worker Row Ask Summary Arrival Receipt Reply}
    (stepped : step service state label = some after) :
    Answers service state label after queue := by
  rcases simulates.mirrored stepped with silent | ⟨action, queueAfter, answered, mirrors, after⟩
  · exact .inl silent
  · exact .inr ⟨action, queueAfter, answered, mirrors.licenses simulates, after⟩

/-- The machine refines the queue: under disciplines that carry over, every path of
the machine is matched by a run of the queue. -/
theorem refines {permitted : State Worker Row Ask Summary Arrival Receipt Reply →
      Label Worker Row Ask Arrival Reply → Prop}
    {allowed : QueueState Worker Body →
      Action Worker UUID (String × String) Int Body → Prop}
    (licensed : ∀ {state label queue action}, permitted state label →
      Simulates service state queue → Licenses service state label queue action →
      allowed queue action)
    {start finish : State Worker Row Ask Summary Arrival Receipt Reply}
    {queueStart : QueueState Worker Body}
    (path : (machine service).Path permitted start finish)
    (initially : Simulates service start queueStart) :
    ∃ queueFinish, Relation.ReflTransGen (Queue.Next allowed) queueStart queueFinish ∧
      Simulates service finish queueFinish := by
  refine Machine.path_simulate ?_ path initially
  intro before label after queue permit stepped simulates
  rcases simulates.answer stepped with ⟨_, silent⟩ | ⟨action, queueAfter, answered, licenses, after⟩
  · exact ⟨queue, .refl, silent⟩
  · exact ⟨queueAfter, .single ⟨action, licensed permit simulates licenses, answered⟩, after⟩

end Answer

end Pactix.Worker
