import Mathlib.Data.List.TakeWhile
import Pactix.Queue.Backlog
import Pactix.Worker.Runs

/-!
# A pass from its beginning to its end

One pass is followed call by call.  Which calls it makes depends on the callbacks
alone, whatever others do to the table meanwhile; when nobody else does anything, the
table it leaves behind is known as well, and the pass is a path of the machine.
-/

namespace Pactix.Worker

open Foundation Queue

variable {Worker Row Ask Summary Arrival Receipt Body : Type} {Reply : Ask → Type}

/-- What a pass leaves behind. -/
abbrev PassTranscript (Row Ask : Type) (Reply : Ask → Type) (Summary : Type) :=
  Transcript (Call Ask) (Answer Row Reply) (List Row) (Except Error Summary)

/-- The calls of a pass, in order. -/
def PassTranscript.requests (transcript : PassTranscript Row Ask Reply Summary) :
    List (Call Ask) :=
  transcript.performed.map Performed.request

/-- Perform the call at a position, after `others` have changed the table. -/
def Store.interpret (store : Store Worker Row Arrival Receipt) (worker : Worker)
    (contexts : Nat → Context Row Ask Reply) (others : Nat → List Row → List Row)
    (position : Nat) (request : Call Ask) (table : List Row) :
    Answer Row Reply request × List Row :=
  store.perform worker (contexts position) request (others position table)

/-- Nobody else changes the table. -/
def alone (_ : Nat) (table : List Row) : List Row := table

namespace Service

variable (service : Service Worker Row Ask Summary Arrival Receipt Body Reply)
variable (worker : Worker) (contexts : Nat → Context Row Ask Reply)
variable (others : Nat → List Row → List Row) (table : List Row)

/-- One pass of a worker. -/
def pass : PassTranscript Row Ask Reply Summary :=
  (service.runOnce worker).execute (service.store.interpret worker contexts others) 0 table

/-- The claiming transaction of the pass, which uses the reading of the first call. -/
def claim : (Nat × List Row) × List Row :=
  service.store.reclaimAndClaim worker (service.query worker) (contexts 1).choices
    (.utc (contexts 0).time) (others 1 (others 0 table))

/-- The records that the pass works through. -/
def batch : List Row := (service.claim worker contexts others table).1.2

/-- The part of the pass that comes after the claim. -/
def delivery : PassTranscript Row Ask Reply Summary :=
  let claim := service.claim worker contexts others table
  ((service.routine worker).deliver (service.opening claim.1.1 claim.1.2.length)
    claim.1.2).execute (service.store.interpret worker contexts others) 2 claim.2

theorem pass_eq :
    service.pass worker contexts others table =
      { service.delivery worker contexts others table with
        performed :=
          ⟨0, .utcnow, .utc (contexts 0).time⟩ ::
          ⟨1, .reclaimAndClaim (service.query worker) (.utc (contexts 0).time),
            (service.claim worker contexts others table).1⟩ ::
          (service.delivery worker contexts others table).performed } := by
  unfold pass
  rw [service.runOnce_eq]
  rfl

/-- The entry that recording a verdict about a claimed record leaves behind. -/
def settled (context : Context Row Ask Reply) (row : Row) (verdict : Verdict) :
    Entry UUID (String × String) Int Body :=
  (service.entry row).settle verdict (service.entry row).attempts
    (service.entry row).card.ceiling (service.retryAt worker context row) context.time

end Service

/-! ## The calls of a pass -/

namespace Routine

variable (routine : Routine Row Ask Reply Summary)
variable (reply : (query : Ask) → Except Error (Reply query))

/-- The rows of a batch that come before the first one for which a callback raises. -/
def ahead (rows : List Row) : List Row :=
  rows.takeWhile fun row => ((routine.inquire row).outcome reply).isOk

/-- The rows of a batch from the first one on for which a callback raises. -/
def behind (rows : List Row) : List Row :=
  rows.dropWhile fun row => ((routine.inquire row).outcome reply).isOk

/-- The calls for one row: its callbacks and, unless one of them raises, the recording of
the verdict. -/
def calls (row : Row) : List (Call Ask) :=
  ((routine.inquire row).asked reply).map .ask ++
    match (routine.inquire row).outcome reply with
    | .ok verdict => [routine.recording row verdict]
    | .error _ => []

/-- The calls for a batch. -/
def script (rows : List Row) : List (Call Ask) :=
  (routine.ahead reply rows).flatMap (routine.calls reply) ++
    (routine.behind reply rows).head?.toList.flatMap (routine.calls reply)

variable {routine reply} {row : Row} {rows : List Row}

variable (routine reply rows) in
theorem ahead_append_behind : routine.ahead reply rows ++ routine.behind reply rows = rows :=
  List.takeWhile_append_dropWhile

theorem ahead_sublist : (routine.ahead reply rows).Sublist rows :=
  List.takeWhile_sublist _

theorem behind_sublist : (routine.behind reply rows).Sublist rows :=
  List.dropWhile_sublist _

/-- With distinct keys no key is on both sides. -/
theorem disjoint_of_distinct {Key : Type} {key : Row → Key}
    (distinct : (rows.map key).Nodup) :
    List.Disjoint ((routine.ahead reply rows).map key) ((routine.behind reply rows).map key) := by
  rw [← ahead_append_behind routine reply rows, List.map_append] at distinct
  exact List.disjoint_of_nodup_append distinct

theorem ahead_cons_ok {verdict : Verdict}
    (returns : (routine.inquire row).outcome reply = .ok verdict) :
    routine.ahead reply (row :: rows) = row :: routine.ahead reply rows := by
  simp [ahead, returns, Except.isOk, Except.toBool]

theorem behind_cons_ok {verdict : Verdict}
    (returns : (routine.inquire row).outcome reply = .ok verdict) :
    routine.behind reply (row :: rows) = routine.behind reply rows := by
  simp [behind, returns, Except.isOk, Except.toBool]

theorem ahead_cons_error {error : Error}
    (raises : (routine.inquire row).outcome reply = .error error) :
    routine.ahead reply (row :: rows) = [] := by
  simp [ahead, raises, Except.isOk, Except.toBool]

theorem behind_cons_error {error : Error}
    (raises : (routine.inquire row).outcome reply = .error error) :
    routine.behind reply (row :: rows) = row :: rows := by
  simp [behind, raises, Except.isOk, Except.toBool]

theorem outcome_of_head_behind (first : (routine.behind reply rows).head? = some row) :
    ((routine.inquire row).outcome reply).isOk = false := by
  have fails := List.head?_dropWhile_not
    (fun row => ((routine.inquire row).outcome reply).isOk) rows
  rw [← behind, first] at fails
  simpa using fails

end Routine

section Execute

variable {routine : Routine Row Ask Reply Summary}
variable {interpret : Nat → (request : Call Ask) → List Row → Answer Row Reply request × List Row}
variable {reply : (query : Ask) → Except Error (Reply query)}

/-- An inquiry that ends in an exception ends the pass. -/
theorem execute_pursue_error
    (answers : ∀ position query table, (interpret position (.ask query) table).1 = reply query)
    {inquiry : Inquiry Ask Reply Summary} {error : Error}
    (raises : inquiry.outcome reply = .error error)
    (continuation : Verdict → (Recorded → Summary → Summary) → Pass Row Ask Reply Summary)
    (position : Nat) (table : List Row) :
    let transcript := (inquiry.pursue continuation).execute interpret position table
    transcript.result = .error error ∧
      PassTranscript.requests transcript = (inquiry.asked reply).map .ask ∧
      ((∀ position query table, (interpret position (.ask query) table).2 = table) →
        transcript.store = table) := by
  induction inquiry generalizing position table with
  | settled verdict tally => simp [Inquiry.outcome] at raises
  | ask query next ih =>
      simp only [Inquiry.outcome] at raises
      simp only [Inquiry.pursue, Program.execute_call, Inquiry.asked, answers]
      cases replied : reply query with
      | error other =>
          rw [replied] at raises
          obtain rfl := Except.error.inj raises
          exact ⟨rfl, rfl, fun spares => spares _ _ _⟩
      | ok answer =>
          rw [replied] at raises
          obtain ⟨result, requests, same⟩ := ih answer raises (position + 1)
            (interpret position (.ask query) table).2
          refine ⟨result, ?_, fun spares => (same spares).trans (spares _ _ _)⟩
          simp only [PassTranscript.requests, List.map_cons] at requests ⊢
          rw [requests]

/-- An inquiry that ends with a verdict hands it on. -/
theorem execute_pursue_ok
    (answers : ∀ position query table, (interpret position (.ask query) table).1 = reply query)
    {inquiry : Inquiry Ask Reply Summary} {verdict : Verdict}
    (returns : inquiry.outcome reply = .ok verdict)
    (continuation : Verdict → (Recorded → Summary → Summary) → Pass Row Ask Reply Summary)
    (position : Nat) (table : List Row) :
    let transcript := (inquiry.pursue continuation).execute interpret position table
    ∃ tally later after,
      let rest := (continuation verdict tally).execute interpret later after
      transcript.result = rest.result ∧ transcript.store = rest.store ∧
        PassTranscript.requests transcript =
          (inquiry.asked reply).map .ask ++ PassTranscript.requests rest ∧
        ((∀ position query table, (interpret position (.ask query) table).2 = table) →
          after = table) := by
  induction inquiry generalizing position table with
  | settled settledVerdict tally =>
      obtain rfl := Except.ok.inj returns
      exact ⟨tally, position, table, rfl, rfl, rfl, fun _ => rfl⟩
  | ask query next ih =>
      simp only [Inquiry.outcome] at returns
      simp only [Inquiry.pursue, Program.execute_call, Inquiry.asked, answers]
      cases replied : reply query with
      | error other => simp [replied] at returns
      | ok answer =>
          rw [replied] at returns
          obtain ⟨tally, later, after, result, store, requests, same⟩ := ih answer returns
            (position + 1) (interpret position (.ask query) table).2
          refine ⟨tally, later, after, result, store, ?_, fun spares => ?_⟩
          · simp only [PassTranscript.requests, List.map_cons, List.cons_append] at requests ⊢
            rw [requests]
          · rw [same spares, spares]

variable (interpret) in
/-- If no callback raises, an inquiry ends with some verdict. -/
theorem execute_pursue_returns
    (returns : ∀ position query table,
      (∃ reply, (interpret position (.ask query) table).1 = .ok reply) ∧
        (interpret position (.ask query) table).2 = table)
    (inquiry : Inquiry Ask Reply Summary)
    (continuation : Verdict → (Recorded → Summary → Summary) → Pass Row Ask Reply Summary)
    (position : Nat) (table : List Row) :
    ∃ verdict tally later, ((inquiry.pursue continuation).execute interpret position table).store =
      ((continuation verdict tally).execute interpret later table).store := by
  induction inquiry generalizing position with
  | settled verdict tally => exact ⟨verdict, tally, position, rfl⟩
  | ask query next ih =>
      obtain ⟨⟨reply, replied⟩, same⟩ := returns position query table
      simp only [Inquiry.pursue, Program.execute_call, replied, same]
      exact ih reply (position + 1)

variable (routine interpret) in
/-- Recording a verdict is one call. -/
theorem execute_record (row : Row) (verdict : Verdict)
    (continuation : Recorded → Pass Row Ask Reply Summary) (position : Nat)
    (table : List Row) :
    let transcript := (routine.record row verdict continuation).execute interpret position table
    ∃ recorded,
      let rest := (continuation recorded).execute interpret (position + 1)
        (interpret position (routine.recording row verdict) table).2
      transcript.result = rest.result ∧ transcript.store = rest.store ∧
        PassTranscript.requests transcript =
          routine.recording row verdict :: PassTranscript.requests rest := by
  cases verdict with
  | done => exact ⟨.done, rfl, rfl, rfl⟩
  | terminal message => exact ⟨.failed, rfl, rfl, rfl⟩
  | retryable message =>
      simp only [Routine.record, Routine.recording, Program.execute_call]
      cases (interpret position (.handleRetryableFailure (routine.id row)
        (routine.attempts row) (routine.maxAttempts row) message) table).1 with
      | retryScheduled => exact ⟨.retryScheduled, rfl, rfl, rfl⟩
      | failed => exact ⟨.failed, rfl, rfl, rfl⟩

variable (routine) in
/-- The calls for a batch stop at the first row for which a callback raises, whose
exception is the result. -/
theorem execute_deliver
    (answers : ∀ position query table, (interpret position (.ask query) table).1 = reply query)
    (summary : Summary) (rows : List Row) (position : Nat) (table : List Row) :
    let transcript := (routine.deliver summary rows).execute interpret position table
    PassTranscript.requests transcript = routine.script reply rows ∧
      ∀ error, transcript.result = .error error ↔
        ∃ row, (routine.behind reply rows).head? = some row ∧
          (routine.inquire row).outcome reply = .error error := by
  induction rows generalizing summary position table with
  | nil =>
      refine ⟨rfl, fun error => ?_⟩
      simp [Routine.deliver, Routine.behind]
  | cons row rows ih =>
      cases outcome : (routine.inquire row).outcome reply with
      | error error =>
          obtain ⟨result, requests, _⟩ := execute_pursue_error answers outcome
            (fun verdict tally => routine.record row verdict fun recorded =>
              routine.deliver (tally recorded summary) rows) position table
          simp only [Routine.deliver, Routine.script, Routine.ahead_cons_error outcome,
            Routine.behind_cons_error outcome]
          refine ⟨by rw [requests]; simp [Routine.calls, outcome], fun other => ?_⟩
          rw [result]
          simp [outcome]
      | ok verdict =>
          obtain ⟨tally, later, after, result, _, requests, _⟩ := execute_pursue_ok answers outcome
            (fun verdict tally => routine.record row verdict fun recorded =>
              routine.deliver (tally recorded summary) rows) position table
          obtain ⟨recorded, recordResult, _, recordRequests⟩ := execute_record routine interpret
            row verdict
            (fun recorded => routine.deliver (tally recorded summary) rows) later after
          obtain ⟨restRequests, restResult⟩ := ih (tally recorded summary) (later + 1)
            (interpret later (routine.recording row verdict) after).2
          simp only [Routine.deliver, Routine.script, Routine.ahead_cons_ok outcome,
            Routine.behind_cons_ok outcome]
          constructor
          · rw [requests, recordRequests, restRequests]
            simp [Routine.calls, outcome, Routine.script]
          · intro error
            rw [result, recordResult]
            exact restResult error

/-- The calls of an inquiry are callbacks that it may ask, followed by those of what comes
after it. -/
theorem mem_execute_pursue {judge : (query : Ask) → Reply query → Option Verdict}
    {About : Ask → Prop}
    {continuation : Verdict → (Recorded → Summary → Summary) → Pass Row Ask Reply Summary}
    {inquiry : Inquiry Ask Reply Summary} {decided : Option Verdict}
    (sound : inquiry.Sound judge About decided) (position : Nat) (table : List Row)
    {call : Performed (Call Ask) (Answer Row Reply)}
    (performed : call ∈
      ((inquiry.pursue continuation).execute interpret position table).performed) :
    (∃ query, call.request = .ask query ∧ About query) ∨ ∃ verdict tally later after,
      call ∈ ((continuation verdict tally).execute interpret later after).performed := by
  induction inquiry generalizing decided position table with
  | settled verdict tally => exact .inr ⟨verdict, tally, position, table, performed⟩
  | ask query next ih =>
      obtain ⟨_, about, replies⟩ := sound
      simp only [Inquiry.pursue, Program.execute_call, List.mem_cons] at performed
      rcases performed with rfl | performed
      · exact .inl ⟨query, rfl, about⟩
      · split at performed
        next => simp at performed
        next answer _ => exact ih answer (replies answer) _ _ performed

end Execute

section Service

variable {service : Service Worker Row Ask Summary Arrival Receipt Body Reply}
variable {worker : Worker} {contexts : Nat → Context Row Ask Reply}

/-- Callbacks are asked about records of the batch. -/
theorem subject_mem_of_deliver
    {interpret : Nat → (request : Call Ask) → List Row → Answer Row Reply request × List Row}
    (summary : Summary) (rows : List Row) (position : Nat) (table : List Row)
    {call : Performed (Call Ask) (Answer Row Reply)}
    (performed : call ∈ (((service.routine worker).deliver summary rows).execute interpret
      position table).performed)
    {query : Ask} (asks : call.request = .ask query) : service.subject query ∈ rows := by
  induction rows generalizing summary position table with
  | nil => simp [Routine.deliver] at performed
  | cons row rows ih =>
      rcases mem_execute_pursue (service.inquire_sound worker row) position table performed with
        ⟨asked, asksToo, about, _⟩ | ⟨verdict, tally, later, after, performed⟩
      · rw [asks, Call.ask.injEq] at asksToo
        rw [asksToo, about]
        exact List.mem_cons_self
      · -- The recording is no callback, so the call belongs to a later row.
        cases verdict with
        | done | terminal message =>
            simp only [Routine.record, Program.execute_call, List.mem_cons] at performed
            rcases performed with rfl | performed
            · simp at asks
            · exact List.mem_cons_of_mem _ (ih _ _ _ performed)
        | retryable message =>
            simp only [Routine.record, Program.execute_call, List.mem_cons] at performed
            rcases performed with rfl | performed
            · simp at asks
            · split at performed <;> exact List.mem_cons_of_mem _ (ih _ _ _ performed)

/-- Outcomes are recorded for rows that come before the first exception. -/
theorem mem_ahead_of_recordsFor {reply : (query : Ask) → Except Error (Reply query)}
    {rows : List Row} {request : Call Ask}
    (scripted : request ∈ (service.routine worker).script reply rows) {id : UUID}
    (records : request.recordsFor = some id) :
    ∃ row ∈ (service.routine worker).ahead reply rows, service.store.id row = id := by
  -- The calls for one row record an outcome for that row, if any.
  have own : ∀ row, request ∈ (service.routine worker).calls reply row →
      service.store.id row = id ∧
        ∃ verdict, ((service.routine worker).inquire row).outcome reply = .ok verdict := by
    intro row membership
    simp only [Routine.calls, List.mem_append, List.mem_map] at membership
    rcases membership with ⟨query, _, rfl⟩ | membership
    · simp [Call.recordsFor] at records
    · split at membership
      next verdict outcome =>
        obtain rfl := List.mem_singleton.mp membership
        rw [recordsFor_recording, Option.some.injEq] at records
        exact ⟨records, verdict, outcome⟩
      next => simp at membership
  simp only [Routine.script, List.mem_append, List.mem_flatMap, Option.mem_toList] at scripted
  rcases scripted with ⟨row, membership, called⟩ | ⟨row, first, called⟩
  · exact ⟨row, membership, (own row called).1⟩
  · obtain ⟨_, verdict, outcome⟩ := own row called
    have raises := Routine.outcome_of_head_behind first
    simp [outcome, Except.isOk, Except.toBool] at raises

/-- Callbacks are asked about claimed records only. -/
theorem subject_mem_batch {others : Nat → List Row → List Row} {table : List Row}
    {call : Performed (Call Ask) (Answer Row Reply)}
    (performed : call ∈ (service.pass worker contexts others table).performed)
    {query : Ask} (asks : call.request = .ask query) :
    service.subject query ∈ service.batch worker contexts others table := by
  rw [service.pass_eq] at performed
  simp only [List.mem_cons] at performed
  rcases performed with rfl | rfl | performed
  · simp at asks
  · simp at asks
  · exact subject_mem_of_deliver _ _ _ _ performed asks

variable (worker) in
/-- Which calls a pass makes, and how it ends. -/
theorem pass_requests {reply : (query : Ask) → Except Error (Reply query)}
    (replies : ∀ position, (contexts position).reply = reply)
    (others : Nat → List Row → List Row) (table : List Row) :
    (service.pass worker contexts others table).requests =
        .utcnow :: .reclaimAndClaim (service.query worker) (.utc (contexts 0).time) ::
          (service.routine worker).script reply (service.batch worker contexts others table) ∧
      ∀ error, (service.pass worker contexts others table).result = .error error ↔
        ∃ row, ((service.routine worker).behind reply
            (service.batch worker contexts others table)).head? = some row ∧
          ((service.routine worker).inquire row).outcome reply = .error error := by
  have answers : ∀ position query table,
      (service.store.interpret worker contexts others position (.ask query) table).1 =
        reply query :=
    fun position query table => by simp [Store.interpret, Store.perform, replies]
  let claim := service.claim worker contexts others table
  obtain ⟨requests, result⟩ := execute_deliver (service.routine worker) answers
    (service.opening claim.1.1 claim.1.2.length) claim.1.2 2 claim.2
  rw [service.pass_eq]
  refine ⟨?_, result⟩
  simp only [PassTranscript.requests, List.map_cons] at requests ⊢
  rw [Service.delivery, requests]
  rfl

/-! ## A pass alone -/

/-- The table stores the records of a batch as they were claimed. -/
structure Lent (service : Service Worker Row Ask Summary Arrival Receipt Body Reply)
    (table rows : List Row) : Prop where
  table_distinct : (table.map service.store.id).Nodup
  rows_distinct : (rows.map service.store.id).Nodup
  stored : ∀ row ∈ rows, service.entry row ∈ table.map service.entry
  processing : ∀ row ∈ rows, (service.entry row).phase = .processing

theorem map_id_entry (table : List Row) :
    (table.map service.entry).map (fun entry => entry.card.id) = table.map service.store.id := by
  simp [List.map_map, Function.comp_def, service.refines.id_entry]

/-- Recording a verdict keeps the ids. -/
theorem ids_recording (context : Context Row Ask Reply) (row : Row) (verdict : Verdict)
    (table : List Row) :
    (service.store.perform worker context ((service.routine worker).recording row verdict)
      table).2.map service.store.id = table.map service.store.id := by
  rw [← map_id_entry, service.perform_recording, map_updateWhere_fixed
    (fun entry => by rw [Entry.card_settle]), map_id_entry]

/-- An entry with another id is not touched by recording a verdict. -/
theorem mem_recording_of_ne (context : Context Row Ask Reply) {row : Row} (verdict : Verdict)
    {table : List Row} {entry : Entry UUID (String × String) Int Body}
    (stored : entry ∈ table.map service.entry) (other : entry.card.id ≠ service.store.id row) :
    entry ∈ (service.store.perform worker context ((service.routine worker).recording row verdict)
      table).2.map service.entry := by
  rw [service.perform_recording]
  exact mem_updateWhere_of_not stored (by simpa [service.refines.id_entry] using other)

/-- The entry of the record is settled. -/
theorem mem_settled (context : Context Row Ask Reply) {row : Row} (verdict : Verdict)
    {table : List Row} (stored : service.entry row ∈ table.map service.entry) :
    service.settled worker context row verdict ∈ (service.store.perform worker context
      ((service.routine worker).recording row verdict) table).2.map service.entry := by
  rw [service.perform_recording]
  exact mem_updateWhere_of stored (by simp)

variable (worker contexts) in
/-- The claim keeps the ids. -/
theorem ids_claim {table : List Row} (distinct : (table.map service.store.id).Nodup) :
    (service.claim worker contexts alone table).2.map service.store.id =
      table.map service.store.id := by
  obtain ⟨chosen, _, lent⟩ := service.refines.lends worker (service.query worker)
    (service.offered worker) (contexts 1).choices (.utc (contexts 0).time) table distinct
  have sameCards : ((service.claim worker contexts alone table).2.map service.entry).map
      Entry.card = (table.map service.entry).map Entry.card := by
    rw [Service.claim, alone, alone, lent, cards_lend, cards_sweep]
  have ids : ∀ rows : List Row, ((rows.map service.entry).map Entry.card).map Card.id =
      rows.map service.store.id := fun rows => by
    rw [← map_id_entry, List.map_map]
    rfl
  rw [← ids, sameCards, ids]

namespace Lent

variable (worker contexts) in
/-- After the claim the batch is lent. -/
theorem of_claim {table : List Row} (distinct : (table.map service.store.id).Nodup) :
    Lent service (service.claim worker contexts alone table).2
      (service.batch worker contexts alone table) := by
  obtain ⟨chosen, lends, lent⟩ := service.refines.lends worker (service.query worker)
    (service.offered worker) (contexts 1).choices (.utc (contexts 0).time) table distinct
  refine ⟨?_, ?_, ?_, ?_⟩
  · rw [ids_claim worker contexts distinct]
    exact distinct
  · have cards : ((table.map service.entry).map Entry.card).map Card.id =
        (table.map service.entry).map fun entry => entry.card.id := List.map_map
    have batchDistinct := lends.nodup (by rw [cards, map_id_entry]; exact distinct)
    rwa [map_id_entry] at batchDistinct
  · intro row membership
    obtain ⟨_, _, _, _, stored⟩ := lends.mem_lend (List.mem_map_of_mem membership)
    rw [← lent] at stored
    exact stored
  · intro row membership
    obtain ⟨_, _, _, taken, _⟩ := lends.mem_lend (List.mem_map_of_mem membership)
    rw [taken]
    rfl

variable (worker) in
/-- Once the first record is dealt with, the others are still lent. -/
theorem record {table rows : List Row} {row : Row} (lent : Lent service table (row :: rows))
    (context : Context Row Ask Reply) (verdict : Verdict) :
    Lent service (service.store.perform worker context
      ((service.routine worker).recording row verdict) table).2 rows := by
  have distinct := lent.rows_distinct
  rw [List.map_cons, List.nodup_cons] at distinct
  refine ⟨?_, distinct.2, ?_, ?_⟩
  · rw [ids_recording]
    exact lent.table_distinct
  · intro other membership
    refine mem_recording_of_ne context verdict
      (lent.stored other (List.mem_cons_of_mem _ membership)) fun same => ?_
    rw [service.refines.id_entry] at same
    exact distinct.1 (same ▸ List.mem_map_of_mem membership)
  · exact fun other membership => lent.processing other (List.mem_cons_of_mem _ membership)

end Lent

variable (worker) in
/-- Alone, the rows before the first exception end up settled, and no other entry is
touched. -/
theorem deliver_alone {reply : (query : Ask) → Except Error (Reply query)}
    (replies : ∀ position, (contexts position).reply = reply) (summary : Summary)
    {rows : List Row} (position : Nat) {table : List Row} (lent : Lent service table rows) :
    let after := (((service.routine worker).deliver summary rows).execute
      (service.store.interpret worker contexts alone) position table).store
    (∀ row ∈ (service.routine worker).ahead reply rows, ∀ verdict,
      ((service.routine worker).inquire row).outcome reply = .ok verdict →
        ∃ position, service.settled worker (contexts position) row verdict ∈
          after.map service.entry) ∧
    ∀ entry ∈ table.map service.entry,
      entry.card.id ∉ ((service.routine worker).ahead reply rows).map service.store.id →
        entry ∈ after.map service.entry := by
  have answers : ∀ position query table,
      (service.store.interpret worker contexts alone position (.ask query) table).1 = reply query :=
    fun position query table => by simp [Store.interpret, Store.perform, replies]
  have spares : ∀ position query table,
      (service.store.interpret worker contexts alone position (.ask query) table).2 = table :=
    fun _ _ _ => rfl
  induction rows generalizing summary position table with
  | nil => simp [Routine.deliver, Routine.ahead]
  | cons row rows ih =>
      cases outcome : ((service.routine worker).inquire row).outcome reply with
      | error error =>
          obtain ⟨_, _, same⟩ := execute_pursue_error answers outcome
            (fun verdict tally => (service.routine worker).record row verdict fun recorded =>
              (service.routine worker).deliver (tally recorded summary) rows) position table
          simp only [Routine.deliver, Routine.ahead_cons_error outcome, same spares]
          exact ⟨by simp, fun entry stored _ => stored⟩
      | ok verdict =>
          obtain ⟨tally, later, after, _, store, _, same⟩ := execute_pursue_ok answers outcome
            (fun verdict tally => (service.routine worker).record row verdict fun recorded =>
              (service.routine worker).deliver (tally recorded summary) rows) position table
          obtain rfl := same spares
          obtain ⟨recorded, _, recordStore, _⟩ := execute_record (service.routine worker)
            (service.store.interpret worker contexts alone) row verdict
            (fun recorded => (service.routine worker).deliver (tally recorded summary) rows)
            later after
          obtain ⟨settled, untouched⟩ := ih (tally recorded summary) (later + 1)
            (lent.record worker (contexts later) verdict)
          simp only [Routine.deliver, Routine.ahead_cons_ok outcome, store, recordStore]
          have apart := (List.nodup_cons.mp lent.rows_distinct).1
          refine ⟨fun other membership otherVerdict returns => ?_, fun entry stored elsewhere => ?_⟩
          · rcases List.mem_cons.mp membership with rfl | membership
            · obtain rfl := Except.ok.inj (outcome.symm.trans returns)
              refine ⟨later, untouched _ (mem_settled (contexts later) verdict
                (lent.stored other List.mem_cons_self)) fun listed => apart ?_⟩
              rw [Service.settled, Entry.card_settle, service.refines.id_entry] at listed
              exact (Routine.ahead_sublist.map _).subset listed
            · exact settled other membership otherVerdict returns
          · rw [List.map_cons, List.mem_cons, not_or] at elsewhere
            exact untouched entry (mem_recording_of_ne (contexts later) verdict stored elsewhere.1)
              elsewhere.2

variable (worker) in
/-- A pass alone settles the rows before the first exception and leaves the other rows of
its batch as it claimed them. -/
theorem pass_settles {reply : (query : Ask) → Except Error (Reply query)} {table : List Row}
    (distinct : (table.map service.store.id).Nodup)
    (replies : ∀ position, (contexts position).reply = reply) :
    let batch := service.batch worker contexts alone table
    let after := (service.pass worker contexts alone table).store
    (∀ row ∈ (service.routine worker).ahead reply batch, ∀ verdict,
      ((service.routine worker).inquire row).outcome reply = .ok verdict →
        ∃ position, service.settled worker (contexts position) row verdict ∈
          after.map service.entry) ∧
    ∀ row ∈ (service.routine worker).behind reply batch,
      service.entry row ∈ after.map service.entry := by
  intro batch after
  have lent : Lent service _ batch := .of_claim worker contexts distinct
  let claim := service.claim worker contexts alone table
  obtain ⟨settled, untouched⟩ := deliver_alone worker replies
    (service.opening claim.1.1 claim.1.2.length) 2 lent
  simp only [after, service.pass_eq]
  refine ⟨settled, fun row membership => ?_⟩
  refine untouched _ (lent.stored row (Routine.behind_sublist.subset membership)) ?_
  rw [service.refines.id_entry]
  exact fun listed => Routine.disjoint_of_distinct lent.rows_distinct listed
    (List.mem_map_of_mem membership)

variable (worker) in
/-- Alone, and with callbacks that never raise, every record of a batch takes something
off the backlog. -/
theorem deliver_backlog
    (returns : ∀ position query, ∃ reply, (contexts position).reply query = .ok reply)
    (summary : Summary) {rows : List Row} (position : Nat) {table : List Row}
    (lent : Lent service table rows) :
    backlog ((((service.routine worker).deliver summary rows).execute
        (service.store.interpret worker contexts alone) position table).store.map service.entry) +
      rows.length ≤ backlog (table.map service.entry) := by
  induction rows generalizing summary position table with
  | nil => simp [Routine.deliver]
  | cons row rows ih =>
      obtain ⟨verdict, tally, later, store⟩ := execute_pursue_returns
        (service.store.interpret worker contexts alone) (fun position query table =>
          ⟨returns position query, rfl⟩) ((service.routine worker).inquire row)
        (fun verdict tally => (service.routine worker).record row verdict fun recorded =>
          (service.routine worker).deliver (tally recorded summary) rows) position table
      obtain ⟨recorded, _, recordStore, _⟩ := execute_record (service.routine worker)
        (service.store.interpret worker contexts alone) row verdict
        (fun recorded => (service.routine worker).deliver (tally recorded summary) rows)
        later table
      have rest := ih (tally recorded summary) (later + 1)
        (lent.record worker (contexts later) verdict)
      have less : backlog ((service.store.perform worker (contexts later)
          ((service.routine worker).recording row verdict) table).2.map service.entry) <
          backlog (table.map service.entry) := by
        rw [service.perform_recording]
        have stored := lent.stored row List.mem_cons_self
        have isOpen : (service.entry row).phase.terminal = false := by
          simp [lent.processing row List.mem_cons_self, Phase.terminal]
        have decreases := Entry.remaining_settle_lt verdict
          (service.retryAt worker (contexts later) row) (contexts later).time isOpen
        refine backlog_updateWhere_lt (fun entry membership sameId => ?_) stored (by simp) decreases
        have same := List.inj_on_of_nodup_map (f := fun entry => entry.card.id)
          (by rw [map_id_entry]; exact lent.table_distinct) membership stored
          (by simpa using sameId)
        rw [same]
        exact decreases.le
      simp only [Routine.deliver, store, recordStore, List.length_cons]
      have interpreted : (service.store.interpret worker contexts alone later
          ((service.routine worker).recording row verdict) table).2 =
          (service.store.perform worker (contexts later)
            ((service.routine worker).recording row verdict) table).2 := rfl
      rw [interpreted]
      omega

variable [DecidableEq Worker]

variable (contexts) in
/-- Alone, a program that a worker runs is a path of the machine. -/
theorem execute_path (program : Pass Row Ask Reply Summary) (position : Nat)
    {state : State Worker Row Ask Summary Arrival Receipt Reply}
    (running : (state.process worker).program = some program) :
    ∃ after, (machine service).Path Machine.Free state after ∧
      after.table =
        (program.execute (service.store.interpret worker contexts alone) position
          state.table).store := by
  induction program generalizing position state with
  | done result => exact ⟨state, .refl, rfl⟩
  | call request resume ih =>
      let next := act service state worker (contexts position) request resume
      have stepped : step service state (.act worker (contexts position)) = some next := by
        simp only [step, running, next]
      have continued : (next.process worker).program =
          some (resume
            (service.store.perform worker (contexts position) request state.table).1) := by
        simp only [next, act, if_true]
        cases request <;> rfl
      obtain ⟨after, path, table⟩ := ih _ (position + 1) continued
      exact ⟨after, .head ⟨.act worker (contexts position), trivial, stepped⟩ path, table⟩

variable (worker contexts) in
/-- A pass alone is a path of the machine. -/
theorem pass_path (state : State Worker Row Ask Summary Arrival Receipt Reply) :
    ∃ after, (machine service).Path Machine.Free state after ∧
      after.table = (service.pass worker contexts alone state.table).store := by
  let process : Process Row Ask Summary Reply := { program := some (service.runOnce worker) }
  let spawned := { state with process := Function.update state.process worker process }
  have running : (spawned.process worker).program = some (service.runOnce worker) := by
    simp [spawned, process]
  obtain ⟨after, path, table⟩ := execute_path contexts _ 0 running
  exact ⟨after, .head ⟨.spawn worker, trivial, rfl⟩ path, table⟩

end Service

end Pactix.Worker
