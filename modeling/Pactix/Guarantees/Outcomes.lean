import Pactix.Guarantees.Leases

/-!
# Outcomes and attempts

What the outcome of a row says about the callbacks that were asked, and when the
attempt ceiling holds.
-/

namespace Pactix.Guarantees

open Foundation Worker
open Queue (Phase Verdict)

section Service

variable {Worker Row Ask Summary Arrival Receipt Body : Type} {Reply : Ask → Type}
variable (service : Service Worker Row Ask Summary Arrival Receipt Body Reply)
variable (state : State Worker Row Ask Summary Arrival Receipt Reply)

/-- Every row of one state is in a later one, with the same fixed columns and no fewer
attempts. -/
def RowsKept (later : State Worker Row Ask Summary Arrival Receipt Reply) : Prop :=
  ∀ row ∈ state.table, ∃ kept ∈ later.table,
    (service.entry kept).card = (service.entry row).card ∧
      (service.entry row).attempts ≤ (service.entry kept).attempts

/-- A callback that the worker has was asked about a record with the fixed columns of
the row, and gave the verdict. -/
def Earned (row : Row) (verdict : Verdict)
    (consultation : Consultation Worker Ask Reply) : Prop :=
  service.uses consultation.worker consultation.query ∧
    (service.entry (service.subject consultation.query)).card = (service.entry row).card ∧
    service.judge consultation.query consultation.reply = some verdict

/-- No row has more attempts than its ceiling, and no pending row as many. -/
def AttemptsBounded : Prop :=
  ∀ row ∈ state.table, (service.entry row).WithinCeiling

instance : Decidable (AttemptsBounded service state) :=
  inferInstanceAs (Decidable (∀ row ∈ state.table,
    (service.entry row).attempts ≤ max 1 (service.entry row).card.ceiling ∧
      ((service.entry row).phase = .pending →
        (service.entry row).attempts < max 1 (service.entry row).card.ceiling)))

variable {service state} [DecidableEq Worker] {clock : Int}

theorem rowsKept_of_path
    (path : (machine service).Path Machine.Free (.initial clock) state)
    {later : State Worker Row Ask Summary Arrival Receipt Reply}
    (further : (machine service).Path Machine.Free state later) :
    RowsKept service state later := by
  obtain ⟨queue, simulates, _⟩ := evidenced_of_path path
  intro row stored
  exact simulates.rows_kept further stored

theorem earned_done
    (path : (machine service).Path Machine.Free (.initial clock) state) {row : Row}
    (stored : row ∈ state.table) (done : (service.entry row).phase = .done) :
    ∃ consultation ∈ state.consulted, Earned service row .done consultation := by
  obtain ⟨queue, simulates, evidenced⟩ := evidenced_of_path path
  obtain ⟨held, given, sameCard⟩ := evidenced.done _ (simulates.mem_entries stored) done
  obtain ⟨consultation, consulted, uses, about, judged⟩ := simulates.consulted _ _ given
  exact ⟨consultation, consulted, uses, by rw [about, sameCard], judged⟩

theorem earned_failed
    (path : (machine service).Path Machine.Free (.initial clock) state) {row : Row}
    (stored : row ∈ state.table) (failed : (service.entry row).phase = .failed) :
    ∃ consultation ∈ state.consulted, ∃ verdict : Verdict,
      verdict.Final (service.entry (service.subject consultation.query)) ∧
        Earned service row verdict consultation := by
  obtain ⟨queue, simulates, evidenced⟩ := evidenced_of_path path
  obtain ⟨held, verdict, given, sameCard, final⟩ :=
    evidenced.failed _ (simulates.mem_entries stored) failed
  obtain ⟨consultation, consulted, uses, about, judged⟩ := simulates.consulted _ _ given
  exact ⟨consultation, consulted, verdict, by rwa [about], uses, by rw [about, sameCard],
    judged⟩

omit [DecidableEq Worker] in
theorem attemptsBounded_of_capped {queue : QueueState Worker Body}
    (simulates : Simulates service state queue) (capped : Queue.Capped queue) :
    AttemptsBounded service state :=
  fun _ stored => capped.withinCeiling (simulates.mem_entries stored)

theorem attemptsBounded_of_path
    (path : (machine service).Path (Abreast service) (.initial clock) state) :
    AttemptsBounded service state := by
  obtain ⟨queue, simulates, capped⟩ := capped_of_path path
  exact attemptsBounded_of_capped simulates capped

end Service

/-! ## Sound outcomes -/

/-- The handler or the hook has finished the record, or the filter of an unordered worker
has found it stale. -/
def Processes {Worker J : Type} (mode : Worker → Inbox.Mode) :
    Consultation Worker (Inbox.Query J) Inbox.Query.Reply → Prop
  | ⟨worker, .staleEventFilter _, decision⟩ => mode worker = .unordered ∧ decision = .stale
  | ⟨_, .idempotencyHook _, decision⟩ => decision = .skip ∨ decision = .alreadyApplied
  | ⟨_, .handler _, outcome⟩ => outcome.kind = .processed

/-- The handler has failed for good. -/
def GivesUp {Worker J : Type} : Consultation Worker (Inbox.Query J) Inbox.Query.Reply → Prop
  | ⟨_, .handler record, outcome⟩ => outcome.kind = .terminal ∨
      outcome.kind = .retryable ∧ record.attempts + 1 ≥ record.maxAttempts
  | ⟨_, .staleEventFilter _, _⟩ => False
  | ⟨_, .idempotencyHook _, _⟩ => False

/-- Every published row was published, and every failed row given up. -/
def PublishedSoundly {Worker J : Type}
    (state : State Worker (Outbox.OutboxMessageRecord J) (Outbox.OutboxMessageRecord J)
      Outbox.RunSummary (Outbox.Arrival J) (Outbox.OutboxMessageRecord J)
      fun _ => Outbox.PublishOutcome) : Prop :=
  ∀ row ∈ state.table,
    (row.status = .published → ∃ call ∈ state.consulted,
      call.query.content = row.content ∧ call.reply.kind = .published) ∧
    (row.status = .failed → ∃ call ∈ state.consulted, call.query.content = row.content ∧
      (call.reply.kind = .terminal ∨ call.reply.kind = .retryable ∧
        call.query.attempts + 1 ≥ call.query.maxAttempts))

/-- Every processed row was processed, and every failed row given up. -/
def ProcessedSoundly {Worker J : Type} (mode : Worker → Inbox.Mode)
    (state : State Worker (Inbox.InboxMessageRecord J) (Inbox.Query J)
      Inbox.RunSummary (Inbox.Arrival J) (Inbox.ReceiveOutcome J) Inbox.Query.Reply) : Prop :=
  ∀ row ∈ state.table,
    (row.status = .processed → ∃ call ∈ state.consulted,
      call.query.record.content = row.content ∧ Processes mode call) ∧
    (row.status = .failed → ∃ call ∈ state.consulted,
      call.query.record.content = row.content ∧ GivesUp call)

theorem kind_of_verdict_done {outcome : Outbox.PublishOutcome}
    (done : outcome.verdict = .done) : outcome.kind = .published := by
  obtain ⟨kind, message⟩ := outcome
  cases kind <;> simp [Outbox.PublishOutcome.verdict] at done ⊢

theorem publishedSoundly_of_path {Worker J : Type} [DecidableEq Worker]
    {deployment : Deployment Worker} {clock : Int} {state}
    (path : (machine (Outbox.service (J := J) deployment)).Path Machine.Free
      (.initial clock) state) : PublishedSoundly state := by
  intro row stored
  constructor
  · intro published
    obtain ⟨call, consulted, _, sameCard, judged⟩ := earned_done path stored
      (by simp [Outbox.service, Outbox.OutboxMessageRecord.entry, published,
        Outbox.OutboxStatus.phase])
    exact ⟨call, consulted, congrArg Queue.Card.body sameCard,
      kind_of_verdict_done (Option.some.inj judged)⟩
  · intro failed
    obtain ⟨call, consulted, verdict, final, _, sameCard, judged⟩ := earned_failed path stored
      (by simp [Outbox.service, Outbox.OutboxMessageRecord.entry, failed,
        Outbox.OutboxStatus.phase])
    refine ⟨call, consulted, congrArg Queue.Card.body sameCard, ?_⟩
    obtain rfl := Option.some.inj judged
    cases kind : call.reply.kind with
    | published => simp [Outbox.PublishOutcome.verdict, kind, Verdict.Final] at final
    | terminal => exact .inl rfl
    | retryable =>
        simp only [Outbox.PublishOutcome.verdict, kind] at final
        exact .inr ⟨rfl, final⟩

theorem processedSoundly_of_path {Worker J : Type} [DecidableEq Worker]
    {deployment : Deployment Worker} {mode : Worker → Inbox.Mode} {clock : Int} {state}
    (path : (machine (Inbox.service (J := J) deployment mode)).Path Machine.Free
      (.initial clock) state) : ProcessedSoundly mode state := by
  intro row stored
  constructor
  · intro processed
    obtain ⟨⟨worker, query, reply⟩, consulted, uses, sameCard, judged⟩ :=
      earned_done path stored
        (by simp [Inbox.service, Inbox.InboxMessageRecord.entry, processed,
          Inbox.InboxStatus.phase])
    refine ⟨_, consulted, congrArg Queue.Card.body sameCard, ?_⟩
    cases query with
    | staleEventFilter record =>
        cases reply with
        | stale => exact ⟨uses, rfl⟩
        | fresh => simp [Inbox.service, Inbox.Query.judge] at judged
    | idempotencyHook record =>
        cases reply with
        | process => simp [Inbox.service, Inbox.Query.judge] at judged
        | skip => exact .inl rfl
        | alreadyApplied => exact .inr rfl
    | handler record =>
        obtain ⟨kind, message⟩ := reply
        cases kind <;>
          simp [Inbox.service, Inbox.Query.judge, Inbox.HandleOutcome.verdict, Processes]
            at judged ⊢
  · intro failed
    obtain ⟨⟨worker, query, reply⟩, consulted, verdict, final, _, sameCard, judged⟩ :=
      earned_failed path stored
        (by simp [Inbox.service, Inbox.InboxMessageRecord.entry, failed,
          Inbox.InboxStatus.phase])
    refine ⟨_, consulted, congrArg Queue.Card.body sameCard, ?_⟩
    cases query with
    | staleEventFilter record | idempotencyHook record =>
        cases reply <;> simp [Inbox.service, Inbox.Query.judge] at judged <;>
          simp [← judged, Verdict.Final] at final
    | handler record =>
        obtain rfl := Option.some.inj judged
        obtain ⟨kind, message⟩ := reply
        cases kind with
        | processed => simp [Inbox.HandleOutcome.verdict, Verdict.Final] at final
        | terminal => exact .inl rfl
        | retryable => exact .inr ⟨rfl, final⟩

/-- Rows are never lost or altered, and every outcome rests on a callback. -/
theorem sound_outcomes {Worker J : Type} [DecidableEq Worker] (deployment : Deployment Worker)
    (mode : Worker → Inbox.Mode) (clock : Int) :
    (let service := Outbox.service (J := J) deployment
      ∀ state, (machine service).Path Machine.Free (.initial clock) state →
        (∀ later, (machine service).Path Machine.Free state later →
          RowsKept service state later) ∧
        PublishedSoundly state) ∧
    (let service := Inbox.service (J := J) deployment mode
      ∀ state, (machine service).Path Machine.Free (.initial clock) state →
        (∀ later, (machine service).Path Machine.Free state later →
          RowsKept service state later) ∧
        ProcessedSoundly mode state) :=
  ⟨fun _ path => ⟨fun _ => rowsKept_of_path path, publishedSoundly_of_path path⟩,
    fun _ path => ⟨fun _ => rowsKept_of_path path, processedSoundly_of_path path⟩⟩

theorem sound_outcomes_sample :
    (∃ later, (machine outbox).replay Machine.Free overtaken [publishing false 45] =
        some later ∧
      later.table.map (·.status) = [.failed] ∧ RowsKept outbox overtaken later ∧
      PublishedSoundly overtaken ∧ PublishedSoundly later) ∧
    (∃ later, (machine inbox).replay Machine.Free processed [receiving 2 7 m2] =
        some later ∧
      later.table.map (·.status) = [.processed, .pending] ∧ RowsKept inbox processed later ∧
      ProcessedSoundly (fun _ => .fifoPerOrderingKey) processed) := by
  have claim := sound_outcomes (J := Unit) deployment
    (fun (_ : Bool) => .fifoPerOrderingKey) 0
  constructor
  · have path : (machine outbox).Path Machine.Free (.initial 0) overtaken :=
      Machine.path_mono (fun _ _ _ => trivial)
        ((machine outbox).path_replay Clocked _ overtakenRun _)
    have further := (machine outbox).path_replay Machine.Free overtaken [publishing false 45]
      (by decide +kernel)
    exact ⟨_, (Option.some_get _).symm, by decide +kernel, (claim.1 _ path).1 _ further,
      (claim.1 _ path).2, (claim.1 _ (path.trans further)).2⟩
  · have path : (machine inbox).Path Machine.Free (.initial 0) processed :=
      Machine.path_mono (fun _ _ _ => trivial)
        ((machine inbox).path_replay Current _ (handleRun ++ [handling false 6]) _)
    have further := (machine inbox).path_replay Machine.Free processed
      [receiving 2 7 m2] (by decide +kernel)
    exact ⟨_, (Option.some_get _).symm, by decide +kernel, (claim.2 _ path).1 _ further,
      (claim.2 _ path).2⟩

/-! ## The attempt ceiling -/

/-- While every failure is recorded with the count that is stored the ceiling holds.  Without
late outcomes every failure is. -/
theorem attempt_ceiling {Worker J : Type} [DecidableEq Worker] (deployment : Deployment Worker)
    (mode : Worker → Inbox.Mode) (clock : Int) :
    (let service := Outbox.service (J := J) deployment;
      ∀ state, ((machine service).Path (Abreast service) (.initial clock) state →
          AttemptsBounded service state) ∧
        ((machine service).Path Current (.initial clock) state →
          (machine service).Path (Abreast service) (.initial clock) state)) ∧
    (let service := Inbox.service (J := J) deployment mode;
      ∀ state, ((machine service).Path (Abreast service) (.initial clock) state →
          AttemptsBounded service state) ∧
        ((machine service).Path Current (.initial clock) state →
          (machine service).Path (Abreast service) (.initial clock) state)) :=
  ⟨fun _ => ⟨attemptsBounded_of_path, abreast_of_current⟩,
    fun _ => ⟨attemptsBounded_of_path, abreast_of_current⟩⟩

/-- A failure that comes after the lease is the first one that is counted for the row. -/
def failing :=
  ((machine outbox).replay (Abreast outbox) (.initial 0) [appending 1 0 m1, .spawn false,
    publishing false 1, publishing false 2, .spawn true, publishing true 40, publishing true 41,
    publishing false 42 (.retryable "busy"), publishing false 43, .spawn false,
    publishing false 90, publishing false 91, publishing false 92 (.retryable "busy"),
    publishing false 93]).get (by decide +kernel)

def failingHandler :=
  ((machine inbox).replay Current (.initial 0) [receiving 1 0 m1,
    .spawn false, handling false 1, handling false 2, handling false 3,
    handling false 4 (.retryable "busy"), handling false 5]).get (by decide +kernel)

theorem attempt_ceiling_sample :
    (failing.table.map (·.attempts) = [2] ∧ AttemptsBounded outbox failing) ∧
      failingHandler.table.map (·.attempts) = [1] ∧ AttemptsBounded inbox failingHandler := by
  have claim := attempt_ceiling (J := Unit) deployment
    (fun (_ : Bool) => .fifoPerOrderingKey) 0
  have path : (machine outbox).Path (Abreast outbox) (.initial 0) failing :=
    Machine.path_replay ..
  have handlerPath : (machine inbox).Path Current (.initial 0) failingHandler :=
    Machine.path_replay ..
  exact ⟨⟨by decide +kernel, (claim.1 _).1 path⟩, by decide +kernel,
    (claim.2 _).1 ((claim.2 _).2 handlerPath)⟩

/-- Two workers fail with records of the same attempt. -/
def doubledRun : List OutboxLabel :=
  [appending 1 0 m1, .spawn false, publishing false 1, publishing false 2,
    .spawn true, publishing true 40, publishing true 41,
    publishing false 42 (.retryable "busy"), publishing false 43,
    publishing true 44 (.retryable "busy"), publishing true 45]

/-- Both failures are counted, both schedule a retry, and no attempt is left. -/
theorem attempt_ceiling_broken :
    ¬∀ state, (machine outbox).Path Clocked (.initial 0) state →
      ∀ row ∈ state.table, row.attempts ≤ max 1 row.maxAttempts ∧
        (row.status = .pending → row.attempts < max 1 row.maxAttempts) := by
  intro claim
  have path := (machine outbox).path_replay Clocked (.initial 0) doubledRun (by decide +kernel)
  exact absurd (claim _ path) (by decide +kernel)

end Pactix.Guarantees
