import Pactix.Worker.Answers
import Pactix.Worker.Tabular

/-!
# The ledger of a pass

A pass alone whose callbacks return records one verdict for each claimed row, and counts
what it records.
-/

namespace Pactix.Worker

open Foundation Queue

variable {Worker Row Status Ask Summary Arrival Receipt Body : Type} {Reply : Ask → Type}

namespace Inquiry

variable (answers : (query : Ask) → Reply query)

/-- The verdict that the callbacks come to with these answers, and how it is counted. -/
def concluded : Inquiry Ask Reply Summary → Verdict × (Recorded → Summary → Summary)
  | .settled verdict tally => (verdict, tally)
  | .ask query next => (next (answers query)).concluded

/-- The callbacks that are asked when they give these answers. -/
def consulted : Inquiry Ask Reply Summary → List Ask
  | .settled _ _ => []
  | .ask query next => query :: (next (answers query)).consulted

variable {answers}

/-- With these answers the callbacks return. -/
theorem outcome_eq (inquiry : Inquiry Ask Reply Summary) :
    inquiry.outcome (fun query => .ok (answers query)) = .ok (inquiry.concluded answers).1 := by
  induction inquiry with
  | settled verdict tally => rfl
  | ask query next ih => exact ih (answers query)

/-- Only the answers to questions that are asked matter. -/
theorem concluded_congr {others : (query : Ask) → Reply query}
    {inquiry : Inquiry Ask Reply Summary}
    (same : ∀ query ∈ inquiry.consulted answers, query ∈ inquiry.consulted others →
      answers query = others query) :
    inquiry.concluded answers = inquiry.concluded others := by
  induction inquiry with
  | settled verdict tally => rfl
  | ask query next ih =>
      have first : answers query = others query :=
        same query List.mem_cons_self List.mem_cons_self
      simp only [concluded, consulted, first] at same ⊢
      exact ih _ fun later asked askedToo =>
        same later (List.mem_cons_of_mem _ asked) (List.mem_cons_of_mem _ askedToo)

/-- The questions are about the row. -/
theorem consulted_about {judge : (query : Ask) → Reply query → Option Verdict}
    {About : Ask → Prop} {inquiry : Inquiry Ask Reply Summary} {decided : Option Verdict}
    (sound : inquiry.Sound judge About decided) :
    ∀ query ∈ inquiry.consulted answers, About query := by
  induction inquiry generalizing decided with
  | settled verdict tally => exact fun _ asked => absurd asked List.not_mem_nil
  | ask query next ih =>
      intro other asked
      cases asked with
      | head => exact sound.2.1
      | tail _ later => exact ih _ (sound.2.2 _) other later

end Inquiry

/-! ## Counters -/

/-- The counters that every summary has. -/
structure Counters (Summary : Type) where
  reclaimed : Summary → Nat
  claimed : Summary → Nat
  recorded : Recorded → Summary → Nat

/-- One more verdict has been counted. -/
def Counters.Adds (counters : Counters Summary) (recorded : Recorded)
    (before after : Summary) : Prop :=
  counters.reclaimed after = counters.reclaimed before ∧
    counters.claimed after = counters.claimed before ∧
    ∀ other, counters.recorded other after =
      counters.recorded other before + if recorded = other then 1 else 0

/-- Whatever the callbacks say, the inquiry counts its verdict as it is recorded. -/
def Inquiry.Counts (counters : Counters Summary) : Inquiry Ask Reply Summary → Prop
  | .settled verdict tally => ∀ recorded summary, (recorded = .done ↔ verdict = .done) →
      counters.Adds recorded summary (tally recorded summary)
  | .ask _ next => ∀ reply, (next reply).Counts counters

theorem Inquiry.Counts.concluded {counters : Counters Summary}
    {inquiry : Inquiry Ask Reply Summary} (counts : inquiry.Counts counters)
    (answers : (query : Ask) → Reply query) {recorded : Recorded}
    (kind : recorded = .done ↔ (inquiry.concluded answers).1 = .done) (summary : Summary) :
    counters.Adds recorded summary ((inquiry.concluded answers).2 recorded summary) := by
  induction inquiry with
  | settled verdict tally => exact counts recorded summary kind
  | ask query next ih => exact ih _ (counts (answers query)) kind

namespace Routine

variable (routine : Routine Row Ask Reply Summary) (answers : (query : Ask) → Reply query)

/-- How a verdict about a claimed record is recorded. -/
def recorded (row : Row) : Verdict → Recorded
  | .done => .done
  | .terminal _ => .failed
  | .retryable _ =>
      if routine.attempts row + 1 ≥ routine.maxAttempts row then .failed else .retryScheduled

def concluded (row : Row) : Verdict := ((routine.inquire row).concluded answers).1

/-- How the verdict of a record is recorded. -/
def counted (row : Row) : Recorded := routine.recorded row (routine.concluded answers row)

/-- The summary after a record has been dealt with. -/
def tallied (row : Row) (summary : Summary) : Summary :=
  ((routine.inquire row).concluded answers).2 (routine.counted answers row) summary

/-- The summary of a pass over a batch. -/
def ledger (summary : Summary) (rows : List Row) : Summary :=
  rows.foldl (fun summary row => routine.tallied answers row summary) summary

/-- The calls for a record whose callbacks return. -/
def dealings (row : Row) : List (Call Ask) :=
  ((routine.inquire row).consulted answers).map .ask ++
    [routine.recording row (routine.concluded answers row)]

variable {routine answers}

theorem recorded_eq_done {row : Row} {verdict : Verdict} :
    routine.recorded row verdict = .done ↔ verdict = .done := by
  cases verdict with
  | done | terminal => simp [recorded]
  | retryable message =>
      simp only [recorded]
      split <;> simp

variable (answers) in
/-- The ledger counts every row once. -/
theorem ledger_counts {counters : Counters Summary}
    (counts : ∀ row, (routine.inquire row).Counts counters) (summary : Summary)
    (rows : List Row) :
    counters.reclaimed (routine.ledger answers summary rows) = counters.reclaimed summary ∧
      counters.claimed (routine.ledger answers summary rows) = counters.claimed summary ∧
      ∀ recorded, counters.recorded recorded (routine.ledger answers summary rows) =
        counters.recorded recorded summary +
          rows.countP fun row => decide (routine.counted answers row = recorded) := by
  induction rows generalizing summary with
  | nil => simp [ledger]
  | cons row rows ih =>
      have added : counters.Adds (routine.counted answers row) summary
          (routine.tallied answers row summary) :=
        (counts row).concluded answers recorded_eq_done summary
      obtain ⟨reclaimed, claimed, recordedRow⟩ := added
      obtain ⟨restReclaimed, restClaimed, rest⟩ := ih (routine.tallied answers row summary)
      refine ⟨restReclaimed.trans reclaimed, restClaimed.trans claimed, fun other => ?_⟩
      refine (rest other).trans ?_
      rw [recordedRow other, List.countP_cons]
      simp only [decide_eq_true_eq]
      omega

variable (routine answers) in
/-- Every row is counted in one of the three ways. -/
theorem length_eq_counts (rows : List Row) :
    rows.length = rows.countP (fun row => decide (routine.counted answers row = .done)) +
      rows.countP (fun row => decide (routine.counted answers row = .retryScheduled)) +
      rows.countP fun row => decide (routine.counted answers row = .failed) := by
  induction rows with
  | nil => rfl
  | cons row rows ih =>
      simp only [List.length_cons, List.countP_cons, ih]
      cases routine.counted answers row <;> simp <;> omega

end Routine

/-! ## What a verdict leaves behind -/

/-- The phase in which a recorded verdict leaves its row. -/
def Recorded.phase : Recorded → Phase
  | .done => .done
  | .retryScheduled => .pending
  | .failed => .failed

/-- How many attempts a recorded verdict adds to those of its row. -/
def Recorded.attempts : Recorded → Int
  | .done => 0
  | .retryScheduled => 1
  | .failed => 1

theorem Recorded.phase_inj {left right : Recorded} (same : left.phase = right.phase) :
    left = right := by
  cases left <;> cases right <;> first | rfl | exact Phase.noConfusion same

theorem Service.settled_recorded
    (service : Service Worker Row Ask Summary Arrival Receipt Body Reply) (worker : Worker)
    (context : Context Row Ask Reply) (row : Row) (verdict : Verdict) :
    (service.settled worker context row verdict).phase =
        ((service.routine worker).recorded row verdict).phase ∧
      (service.settled worker context row verdict).attempts =
        (service.entry row).attempts +
          ((service.routine worker).recorded row verdict).attempts := by
  cases verdict with
  | done => exact ⟨rfl, (Int.add_zero _).symm⟩
  | terminal message => exact ⟨rfl, rfl⟩
  | retryable message =>
      simp only [Service.settled, Entry.settle, Routine.recorded, service.routine_attempts,
        service.routine_maxAttempts]
      split <;> exact ⟨rfl, rfl⟩

/-! ## The pass -/

section Pass

variable {service : Service Worker Row Ask Summary Arrival Receipt Body Reply}
variable {worker : Worker} {contexts : Nat → Context Row Ask Reply}
variable {answers : (query : Ask) → Reply query}

variable (service) in
/-- The callbacks of a row are asked one after the other, and leave the table alone. -/
theorem execute_pursue_concluded
    (replies : ∀ position, (contexts position).reply = fun query => .ok (answers query))
    (inquiry : Inquiry Ask Reply Summary)
    (continuation : Verdict → (Recorded → Summary → Summary) → Pass Row Ask Reply Summary)
    (position : Nat) (table : List Row) :
    let transcript := (inquiry.pursue continuation).execute
      (service.store.interpret worker contexts alone) position table
    let conclusion := inquiry.concluded answers
    ∃ later,
      let rest := (continuation conclusion.1 conclusion.2).execute
        (service.store.interpret worker contexts alone) later table
      transcript.result = rest.result ∧ transcript.store = rest.store ∧
        PassTranscript.requests transcript =
          (inquiry.consulted answers).map .ask ++ PassTranscript.requests rest ∧
        ∀ call ∈ rest.performed, call ∈ transcript.performed := by
  induction inquiry generalizing position with
  | settled verdict tally => exact ⟨position, rfl, rfl, rfl, fun _ => id⟩
  | ask query next ih =>
      obtain ⟨later, result, store, requests, calls⟩ := ih (answers query) (position + 1)
      have replied : (service.store.interpret worker contexts alone position (.ask query) table) =
          (.ok (answers query), table) := by
        simp only [Store.interpret, Store.perform, replies, alone]
      refine ⟨later, ?_⟩
      simp only [Inquiry.pursue, Program.execute_call, replied, Inquiry.consulted,
        Inquiry.concluded]
      refine ⟨result, store, ?_, fun call performed =>
        List.mem_cons_of_mem _ (calls call performed)⟩
      simp only [PassTranscript.requests, List.map_cons, List.cons_append] at requests ⊢
      rw [requests]

variable (service worker contexts) in
/-- Recording a verdict is one call, and the pass learns how it has been recorded. -/
theorem execute_record_recorded (row : Row) (verdict : Verdict)
    (continuation : Recorded → Pass Row Ask Reply Summary) (position : Nat)
    (table : List Row) :
    let routine := service.routine worker
    let transcript := (routine.record row verdict continuation).execute
      (service.store.interpret worker contexts alone) position table
    let rest := (continuation (routine.recorded row verdict)).execute
      (service.store.interpret worker contexts alone) (position + 1)
      (service.store.perform worker (contexts position) (routine.recording row verdict) table).2
    transcript.result = rest.result ∧ transcript.store = rest.store ∧
      PassTranscript.requests transcript =
        routine.recording row verdict :: PassTranscript.requests rest ∧
      (∀ call ∈ rest.performed, call ∈ transcript.performed) ∧
      ∃ call ∈ transcript.performed, call.position = position ∧
        call.request = routine.recording row verdict := by
  cases verdict with
  | done | terminal message =>
      exact ⟨rfl, rfl, rfl, fun call => List.mem_cons_of_mem _, _, List.mem_cons_self, rfl, rfl⟩
  | retryable message =>
      -- `handleRetryableFailure` answers with the decision that is counted.
      by_cases final : (service.routine worker).attempts row + 1 ≥
          (service.routine worker).maxAttempts row
      · simp only [Routine.record, Routine.recording, Routine.recorded, Program.execute_call,
          Store.interpret, Store.perform, handleRetryableFailure, alone, final, if_true]
        exact ⟨trivial, trivial, rfl, fun call => List.mem_cons_of_mem _, _, List.mem_cons_self,
          rfl, rfl⟩
      · simp only [Routine.record, Routine.recording, Routine.recorded, Program.execute_call,
          Store.interpret, Store.perform, handleRetryableFailure, alone, final, if_false]
        exact ⟨trivial, trivial, rfl, fun call => List.mem_cons_of_mem _, _, List.mem_cons_self,
          rfl, rfl⟩

/-- The updates that recording the verdicts of a batch makes, each at its own time. -/
def Tabular.updates [DecidableEq Status] {columns : Columns Row Status}
    (tabular : Tabular service columns) (worker : Worker)
    (answers : (query : Ask) → Reply query) (marks : List (Row × Int)) :
    List (UUID × (Row → Row)) :=
  marks.map fun mark => (service.store.id mark.1,
    tabular.mark worker mark.2 mark.1 ((service.routine worker).concluded answers mark.1))

/-- Every record of the batch is updated. -/
theorem Tabular.map_fst_updates [DecidableEq Status] {columns : Columns Row Status}
    (tabular : Tabular service columns) (worker : Worker)
    (answers : (query : Ask) → Reply query) (marks : List (Row × Int)) :
    (tabular.updates worker answers marks).map Prod.fst =
      (marks.map Prod.fst).map service.store.id := by
  rw [Tabular.updates, List.map_map, List.map_map]
  rfl

variable (service worker) in
/-- Dealing with one row: its callbacks, and one call that records their verdict. -/
theorem execute_row
    (replies : ∀ position, (contexts position).reply = fun query => .ok (answers query))
    (row : Row) (continuation : Summary → Pass Row Ask Reply Summary) (summary : Summary)
    (position : Nat) (table : List Row) :
    let routine := service.routine worker
    let verdict := routine.concluded answers row
    let transcript := ((routine.inquire row).pursue fun verdict tally =>
      routine.record row verdict fun recorded => continuation (tally recorded summary)).execute
        (service.store.interpret worker contexts alone) position table
    ∃ later,
      let rest := (continuation (routine.tallied answers row summary)).execute
        (service.store.interpret worker contexts alone) (later + 1)
        (service.store.perform worker (contexts later) (routine.recording row verdict) table).2
      transcript.result = rest.result ∧ transcript.store = rest.store ∧
        PassTranscript.requests transcript =
          routine.dealings answers row ++ PassTranscript.requests rest ∧
        (∀ call ∈ rest.performed, call ∈ transcript.performed) ∧
        ∃ call ∈ transcript.performed, call.position = later ∧
          call.request = routine.recording row verdict := by
  intro routine verdict transcript
  let tally := ((routine.inquire row).concluded answers).2
  obtain ⟨later, result, store, requests, calls⟩ := execute_pursue_concluded service
    replies (routine.inquire row) (fun verdict tally => routine.record row verdict fun recorded =>
      continuation (tally recorded summary)) position table
  obtain ⟨recordResult, recordStore, recordRequests, recordCalls, call, performed, own⟩ :=
    execute_record_recorded service worker contexts row verdict
      (fun recorded => continuation (tally recorded summary)) later table
  refine ⟨later, result.trans recordResult, store.trans recordStore, ?_,
    fun call performed => calls call (recordCalls call performed), call, calls call performed, own⟩
  refine requests.trans ((congrArg _ recordRequests).trans ?_)
  rw [Routine.dealings, List.append_assoc]
  rfl

/-- A batch is worked through to its end: every row has its callbacks asked and one verdict
recorded, which is counted. -/
theorem deliver_marks [DecidableEq Status] {columns : Columns Row Status}
    (tabular : Tabular service columns) (worker : Worker)
    (replies : ∀ position, (contexts position).reply = fun query => .ok (answers query))
    (summary : Summary) (rows : List Row) (position : Nat) (table : List Row) :
    let transcript := ((service.routine worker).deliver summary rows).execute
      (service.store.interpret worker contexts alone) position table
    transcript.result = .ok ((service.routine worker).ledger answers summary rows) ∧
      PassTranscript.requests transcript =
        rows.flatMap ((service.routine worker).dealings answers) ∧
      ∃ marks : List (Row × Int), marks.map Prod.fst = rows ∧
        transcript.store =
          updateEach columns.id (tabular.updates worker answers marks) table ∧
        ∀ mark ∈ marks, ∃ call ∈ transcript.performed,
          call.request.recordsFor = some (service.store.id mark.1) ∧
            (contexts call.position).time = mark.2 := by
  induction rows generalizing summary position table with
  | nil => exact ⟨rfl, rfl, [], rfl, rfl, by simp⟩
  | cons row rows ih =>
      obtain ⟨later, result, store, requests, calls, call, callPerformed, atPosition, request⟩ :=
        execute_row service worker replies row
          (fun summary => (service.routine worker).deliver summary rows) summary position table
      obtain ⟨restResult, restRequests, marks, listed, restStore, performed⟩ :=
        ih ((service.routine worker).tallied answers row summary) (later + 1)
          (service.store.perform worker (contexts later) ((service.routine worker).recording row
            ((service.routine worker).concluded answers row)) table).2
      refine ⟨result.trans restResult, ?_, (row, (contexts later).time) :: marks, by simp [listed],
        ?_, ?_⟩
      · rw [List.flatMap_cons, ← restRequests]
        exact requests
      · refine store.trans (restStore.trans ?_)
        rw [tabular.perform_recording]
        rfl
      · intro mark membership
        rcases List.mem_cons.mp membership with rfl | membership
        · refine ⟨call, callPerformed, ?_, by rw [atPosition]⟩
          rw [request, recordsFor_recording]
        · obtain ⟨other, otherPerformed, records⟩ := performed mark membership
          exact ⟨other, calls other otherPerformed, records⟩

variable (service worker) in
/-- The callbacks that are asked about a row. -/
theorem questions_dealings (row : Row) :
    questions ((service.routine worker).dealings answers row) =
      ((service.routine worker).inquire row).consulted answers := by
  have recording : Call.asked ((service.routine worker).recording row
      ((service.routine worker).concluded answers row)) = none := by
    cases (service.routine worker).concluded answers row <;> rfl
  rw [questions, Routine.dealings, List.filterMap_append, List.filterMap_map,
    List.filterMap_cons_none recording]
  simp [Function.comp_def, Call.asked]

variable (service worker) in
/-- One outcome is recorded for a row. -/
theorem recordsFor_dealings (row : Row) :
    ((service.routine worker).dealings answers row).filterMap Call.recordsFor =
      [service.store.id row] := by
  rw [Routine.dealings, List.filterMap_append, List.filterMap_map,
    List.filterMap_cons_some (recordsFor_recording service worker row _)]
  simp [Function.comp_def, Call.recordsFor]

/-- The row of a claimed record ends as its verdict was recorded. -/
theorem pass_ends
    (replies : ∀ position, (contexts position).reply = fun query => .ok (answers query))
    {table : List Row} (distinct : (table.map service.store.id).Nodup) {record : Row}
    (claimed : record ∈ service.batch worker contexts alone table) :
    let recorded := (service.routine worker).counted answers record
    ∃ final ∈ (service.pass worker contexts alone table).store,
      service.store.id final = service.store.id record ∧
        (service.entry final).phase = recorded.phase ∧
        (service.entry final).attempts = (service.entry record).attempts + recorded.attempts := by
  have returns : ∀ row, ((service.routine worker).inquire row).outcome
      (fun query => .ok (answers query)) = .ok ((service.routine worker).concluded answers row) :=
    fun row => Inquiry.outcome_eq _
  have ahead : (service.routine worker).ahead (fun query => .ok (answers query))
      (service.batch worker contexts alone table) = service.batch worker contexts alone table := by
    rw [Routine.ahead, List.takeWhile_eq_self_iff]
    intro row _
    rw [returns]
    rfl
  obtain ⟨position, stored⟩ := (pass_settles worker distinct replies).1 record
    (ahead.symm ▸ claimed) _ (returns record)
  obtain ⟨final, finalMem, settled⟩ := List.mem_map.mp stored
  obtain ⟨phase, attempts⟩ := service.settled_recorded worker (contexts position) record
    ((service.routine worker).concluded answers record)
  refine ⟨final, finalMem, ?_, ?_, ?_⟩
  · rw [← service.refines.id_entry, settled, Service.settled, Entry.card_settle,
      service.refines.id_entry]
  · rw [settled]
    exact phase
  · rw [settled]
    exact attempts

/-- A claimed record has the attempts of its row. -/
theorem origin_of_batch {table : List Row} {record : Row}
    (distinct : (table.map service.store.id).Nodup)
    (claimed : record ∈ service.batch worker contexts alone table) :
    ∃ row ∈ table, service.store.id row = service.store.id record ∧
      (service.entry row).attempts = (service.entry record).attempts := by
  obtain ⟨chosen, lends, _⟩ := service.refines.lends worker (service.query worker)
    (service.offered worker) (contexts 1).choices (.utc (contexts 0).time) table distinct
  obtain ⟨swept, sweptMem, _, taken, _⟩ := lends.mem_lend (List.mem_map_of_mem claimed)
  obtain ⟨before, beforeMem, before_eq⟩ := mem_updateWhere.mp sweptMem
  obtain ⟨row, rowMem, rfl⟩ := List.mem_map.mp beforeMem
  have card : swept.card = (service.entry row).card := by
    rcases before_eq with ⟨_, rfl⟩ | ⟨_, rfl⟩ <;> rfl
  have attempts : swept.attempts = (service.entry row).attempts := by
    rcases before_eq with ⟨_, rfl⟩ | ⟨_, rfl⟩ <;> rfl
  refine ⟨row, rowMem, ?_, ?_⟩
  · rw [← service.refines.id_entry, ← service.refines.id_entry record, taken, Entry.card_take,
      card]
  · rw [taken]
    exact attempts.symm

variable [DecidableEq Status] {columns : Columns Row Status} (tabular : Tabular service columns)

variable (worker contexts) in
/-- A pass alone whose callbacks return. -/
theorem pass_marks
    (replies : ∀ position, (contexts position).reply = fun query => .ok (answers query))
    {table : List Row} (distinct : (table.map service.store.id).Nodup) :
    let routine := service.routine worker
    let claim := service.claim worker contexts alone table
    let batch := service.batch worker contexts alone table
    let pass := service.pass worker contexts alone table
    pass.result = .ok (routine.ledger answers (service.opening claim.1.1 batch.length) batch) ∧
      pass.requests = .utcnow ::
        .reclaimAndClaim (service.query worker) (.utc (contexts 0).time) ::
          batch.flatMap (routine.dealings answers) ∧
      ∃ marks : List (Row × Int), marks.map Prod.fst = batch ∧
        pass.store = claim.2.map (updated columns.id (tabular.updates worker answers marks)) ∧
        ∀ mark ∈ marks, ∃ call ∈ pass.performed,
          call.request.recordsFor = some (service.store.id mark.1) ∧
            (contexts call.position).time = mark.2 := by
  intro routine claim batch pass
  obtain ⟨result, requests, marks, listed, store, performed⟩ := deliver_marks tabular worker
    replies (service.opening claim.1.1 batch.length) batch 2 claim.2
  have whole : pass = _ := service.pass_eq worker contexts alone table
  refine ⟨?_, ?_, marks, listed, ?_, ?_⟩
  · rw [whole]
    exact result
  · rw [whole]
    exact congrArg (_ :: _ :: ·) requests
  · rw [whole]
    refine store.trans (updateEach_eq ?_ ?_ claim.2)
    · rw [tabular.map_fst_updates, listed]
      exact (Lent.of_claim worker contexts distinct).rows_distinct
    · intro update membership row
      obtain ⟨mark, _, rfl⟩ := List.mem_map.mp membership
      exact tabular.id_mark _ _ _ _ row
  · intro mark membership
    obtain ⟨call, callPerformed, records⟩ := performed mark membership
    rw [whole]
    exact ⟨call, List.mem_cons_of_mem _ (List.mem_cons_of_mem _ callPerformed), records⟩

variable (worker contexts) in
include tabular in
/-- The questions about a claimed record are asked. -/
theorem mem_pass_consulted
    (replies : ∀ position, (contexts position).reply = fun query => .ok (answers query))
    {table : List Row} (distinct : (table.map service.store.id).Nodup) {record : Row}
    (claimed : record ∈ service.batch worker contexts alone table) {query : Ask}
    (asked : query ∈ ((service.routine worker).inquire record).consulted answers) :
    ∃ call ∈ (service.pass worker contexts alone table).performed, call.request = .ask query := by
  obtain ⟨_, requests, _⟩ :=
    pass_marks worker contexts tabular replies distinct
  have listed : .ask query ∈ (service.pass worker contexts alone table).requests := by
    rw [requests]
    refine List.mem_cons_of_mem _ (List.mem_cons_of_mem _ (List.mem_flatMap.mpr
      ⟨record, claimed, List.mem_append_left _ (List.mem_map_of_mem asked)⟩))
  exact List.mem_map.mp listed

include tabular in
/-- A pass keeps the ids. -/
theorem ids_pass
    (replies : ∀ position, (contexts position).reply = fun query => .ok (answers query))
    {table : List Row} (distinct : (table.map service.store.id).Nodup) :
    (service.pass worker contexts alone table).store.map service.store.id =
      table.map service.store.id := by
  obtain ⟨_, _, marks, _, store, _⟩ :=
    pass_marks worker contexts tabular replies distinct
  have kept : ∀ update ∈ tabular.updates worker answers marks, ∀ row,
      columns.id (update.2 row) = columns.id row := by
    intro update membership row
    obtain ⟨mark, _, rfl⟩ := List.mem_map.mp membership
    exact tabular.id_mark _ _ _ _ row
  rw [store, ← ids_claim worker contexts distinct, List.map_map]
  apply List.map_congr_left
  intro row _
  rw [Function.comp_apply, ← tabular.id_eq, ← tabular.id_eq]
  exact key_updated kept row

include tabular in
/-- The pass touches no row that it neither reclaims nor claims. -/
theorem pass_spares
    (replies : ∀ position, (contexts position).reply = fun query => .ok (answers query))
    {table : List Row} (distinct : (table.map service.store.id).Nodup) {row : Row}
    (membership : row ∈ table)
    (notExpired : (service.entry row).expired (contexts 0).time = false)
    (unclaimed : service.store.id row ∉
      (service.batch worker contexts alone table).map service.store.id) :
    row ∈ (service.pass worker contexts alone table).store := by
  obtain ⟨_, _, marks, listed, store, _⟩ :=
    pass_marks worker contexts tabular replies distinct
  have unmarked : columns.id row ∉ (tabular.updates worker answers marks).map Prod.fst := by
    rw [tabular.map_fst_updates, listed, tabular.id_eq]
    exact unclaimed
  have claimed : row ∈ (service.claim worker contexts alone table).2 := by
    have offered := service.offered worker
    rw [Service.batch, Service.claim, tabular.reclaimAndClaim_eq worker offered, ← tabular.map_id,
      ← tabular.id_eq] at unclaimed
    rw [Service.claim, tabular.reclaimAndClaim_eq worker offered]
    apply tabular.view.mem_claimReady_of_not _ _ _ _ _ _ _ _ unclaimed
    · rw [tabular.view.ids_reclaimExpired, tabular.map_id]
      exact distinct
    · apply tabular.view.mem_reclaimExpired _ membership
      rw [tabular.entry_eq, DateTime.instant_utc]
      exact notExpired
  rw [store, List.mem_map]
  exact ⟨row, claimed, updated_of_not_mem unmarked⟩

end Pass

end Pactix.Worker
