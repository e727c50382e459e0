import Pactix.Guarantees.Leases
import Pactix.Worker.Ledger

/-!
# What a pass accounts for

The counters of a pass that nobody interferes with, next to the rows it leaves behind and
the calls it makes.
-/

namespace Pactix.Guarantees

open Foundation Worker
open Queue (Phase)

section Service

variable {Worker Row Status Ask Summary Arrival Receipt Body : Type} {Reply : Ask → Type}
variable (service : Service Worker Row Ask Summary Arrival Receipt Body Reply)
variable (counters : Counters Summary)

/-- The row of the record is after the pass as a verdict of this kind leaves it. -/
def EndsAs (before after : List Row) (recorded : Recorded) (record : Row) : Prop :=
  ∃ row ∈ before, ∃ final ∈ after, service.store.id row = service.store.id record ∧
    service.store.id final = service.store.id record ∧
    (service.entry final).phase = recorded.phase ∧
    (service.entry final).attempts = (service.entry row).attempts + recorded.attempts

instance (before after : List Row) (recorded : Recorded) (record : Row) :
    Decidable (EndsAs service before after recorded record) :=
  inferInstanceAs (Decidable (∃ row ∈ before, ∃ final ∈ after,
    service.store.id row = service.store.id record ∧
    service.store.id final = service.store.id record ∧
    (service.entry final).phase = recorded.phase ∧
    (service.entry final).attempts = (service.entry row).attempts + recorded.attempts))

/-- A pass returns a summary that agrees with the table and with the calls. -/
structure Accounts (worker : Worker) (contexts : Nat → Context Row Ask Reply)
    (table : List Row) (summary : Summary) : Prop where
  returned : (service.pass worker contexts alone table).result = .ok summary
  reclaimed : counters.reclaimed summary =
    (table.filter fun row => (service.entry row).expired (contexts 0).time).length
  claimed : counters.claimed summary = (service.batch worker contexts alone table).length
  balanced : counters.claimed summary = counters.recorded .done summary +
    counters.recorded .retryScheduled summary + counters.recorded .failed summary
  counted : ∀ recorded, counters.recorded recorded summary =
    (service.batch worker contexts alone table).countP fun record =>
      decide (EndsAs service table (service.pass worker contexts alone table).store recorded
        record)
  distinct : ((service.batch worker contexts alone table).map service.store.id).Nodup
  marked : (service.pass worker contexts alone table).requests.filterMap Call.recordsFor =
    (service.batch worker contexts alone table).map service.store.id
  spared : ∀ row ∈ table, (service.entry row).expired (contexts 0).time = false →
    service.store.id row ∉ (service.batch worker contexts alone table).map service.store.id →
      row ∈ (service.pass worker contexts alone table).store

/-- The counters follow the routine, and begin with what has been reclaimed and claimed. -/
structure Kept : Prop where
  counts : ∀ worker row, ((service.routine worker).inquire row).Counts counters
  reclaimed : ∀ reclaimed claimed,
    counters.reclaimed (service.opening reclaimed claimed) = reclaimed
  claimed : ∀ reclaimed claimed, counters.claimed (service.opening reclaimed claimed) = claimed
  recorded : ∀ reclaimed claimed recorded,
    counters.recorded recorded (service.opening reclaimed claimed) = 0

/-- The callbacks gave these answers when they were asked. -/
def Answered (worker : Worker) (contexts : Nat → Context Row Ask Reply) (table : List Row)
    (answers : (query : Ask) → Reply query) : Prop :=
  ∀ call ∈ (service.pass worker contexts alone table).performed, ∀ query,
    call.request = .ask query → (contexts call.position).reply query = .ok (answers query)

variable {service counters}
variable [DecidableEq Status] {columns : Columns Row Status}
variable {worker : Worker} {contexts : Nat → Context Row Ask Reply}
variable {answers : (query : Ask) → Reply query} {table : List Row}

/-- A claimed record ends as its verdict is counted, and in no other way. -/
theorem endsAs_iff (tabular : Tabular service columns)
    (replies : ∀ position, (contexts position).reply = fun query => .ok (answers query))
    (distinct : (table.map service.store.id).Nodup) {record : Row}
    (claimed : record ∈ service.batch worker contexts alone table) (recorded : Recorded) :
    EndsAs service table (service.pass worker contexts alone table).store recorded record ↔
      (service.routine worker).counted answers record = recorded := by
  obtain ⟨final, finalMem, finalId, phase, attempts⟩ := pass_ends replies distinct claimed
  constructor
  · rintro ⟨row, rowMem, other, otherMem, rowId, otherId, otherPhase, _⟩
    have afterDistinct : ((service.pass worker contexts alone table).store.map
        service.store.id).Nodup := by
      rw [ids_pass tabular replies distinct]
      exact distinct
    have same : other = final :=
      List.inj_on_of_nodup_map afterDistinct otherMem finalMem (otherId.trans finalId.symm)
    apply Recorded.phase_inj
    rw [← phase, ← otherPhase, same]
  · rintro rfl
    obtain ⟨row, rowMem, rowId, rowAttempts⟩ := origin_of_batch distinct claimed
    refine ⟨row, rowMem, final, finalMem, rowId, finalId, phase, ?_⟩
    rw [rowAttempts]
    exact attempts

/-- A pass alone whose callbacks return accounts for what it did. -/
theorem accounts_of_replies (tabular : Tabular service columns) (kept : Kept service counters)
    (replies : ∀ position, (contexts position).reply = fun query => .ok (answers query))
    (distinct : (table.map service.store.id).Nodup) :
    let batch := service.batch worker contexts alone table
    Accounts service counters worker contexts table ((service.routine worker).ledger answers
      (service.opening (service.claim worker contexts alone table).1.1 batch.length) batch) := by
  intro batch
  obtain ⟨result, requests, _⟩ :=
    pass_marks worker contexts tabular replies distinct
  obtain ⟨reclaimed, claimed, recorded⟩ := Routine.ledger_counts answers
    (kept.counts worker)
    (service.opening (service.claim worker contexts alone table).1.1 batch.length) batch
  have opened : ∀ kind, counters.recorded kind ((service.routine worker).ledger answers
      (service.opening (service.claim worker contexts alone table).1.1 batch.length) batch) =
      batch.countP fun row => decide ((service.routine worker).counted answers row = kind) := by
    intro kind
    rw [recorded, kept.recorded, Nat.zero_add]
  refine ⟨result, ?_, ?_, ?_, ?_, ?_, ?_, ?_⟩
  · rw [reclaimed, kept.reclaimed, Service.claim,
      tabular.reclaimAndClaim_eq worker (service.offered worker)]
    simp only [alone, tabular.view.reclaimed_eq, tabular.entry_eq, DateTime.instant_utc]
  · rw [claimed, kept.claimed]
  · rw [claimed, kept.claimed, opened, opened, opened]
    exact Routine.length_eq_counts (service.routine worker) answers batch
  · intro kind
    rw [opened]
    apply List.countP_congr
    intro record listed
    simp only [decide_eq_true_eq]
    exact (endsAs_iff tabular replies distinct listed kind).symm
  · exact (Lent.of_claim worker contexts distinct).rows_distinct
  · rw [requests, List.filterMap_cons_none rfl, List.filterMap_cons_none rfl,
      List.filterMap_flatMap]
    simp only [recordsFor_dealings]
    exact List.map_eq_flatMap.symm
  · intro row membership notExpired unclaimed
    exact pass_spares tabular replies distinct membership notExpired unclaimed

/-- What the callbacks would have said to other questions does not matter. -/
theorem Accounts.of_answeringAs {summary : Summary}
    (describes : Describes service worker contexts table answers)
    (accounts : Accounts service counters worker (answeringAs contexts answers) table summary) :
    Accounts service counters worker contexts table summary where
  returned := describes.same ▸ accounts.returned
  reclaimed := accounts.reclaimed
  claimed := accounts.claimed
  balanced := accounts.balanced
  counted := describes.same ▸ accounts.counted
  distinct := accounts.distinct
  marked := describes.same ▸ accounts.marked
  spared := describes.same ▸ accounts.spared

/-- The callbacks are asked about the claimed records, one after the other. -/
theorem questions_pass (tabular : Tabular service columns)
    (replies : ∀ position, (contexts position).reply = fun query => .ok (answers query))
    (distinct : (table.map service.store.id).Nodup) :
    questions (service.pass worker contexts alone table).requests =
      (service.batch worker contexts alone table).flatMap fun record =>
        ((service.routine worker).inquire record).consulted answers := by
  obtain ⟨_, requests, _⟩ :=
    pass_marks worker contexts tabular replies distinct
  rw [requests, questions, List.filterMap_cons_none rfl, List.filterMap_cons_none rfl,
    List.filterMap_flatMap]
  exact List.flatMap_congr fun record _ => questions_dealings service worker record

end Service

/-! ## Outbox and inbox -/

/-- The counters of an outbox summary. -/
def outboxCounters : Counters Outbox.RunSummary where
  reclaimed := Outbox.RunSummary.reclaimed
  claimed := Outbox.RunSummary.claimed
  recorded
    | .done => Outbox.RunSummary.published
    | .retryScheduled => Outbox.RunSummary.retryScheduled
    | .failed => Outbox.RunSummary.failed

/-- The counters of an inbox summary. -/
def inboxCounters : Counters Inbox.RunSummary where
  reclaimed := Inbox.RunSummary.reclaimed
  claimed := Inbox.RunSummary.claimed
  recorded
    | .done => Inbox.RunSummary.processed
    | .retryScheduled => Inbox.RunSummary.retryScheduled
    | .failed => Inbox.RunSummary.failed

variable {Worker J : Type}

theorem outbox_kept (deployment : Deployment Worker) :
    Kept (Outbox.service (J := J) deployment) outboxCounters where
  counts _ row outcome recorded summary _ := by
    cases recorded <;> refine ⟨rfl, rfl, fun other => ?_⟩ <;> cases other <;> rfl
  reclaimed _ _ := rfl
  claimed _ _ := rfl
  recorded _ _ recorded := by cases recorded <;> rfl

/-- The stale filter finds the record stale, where it is asked. -/
def Stale (mode : Inbox.Mode) (answers : (query : Inbox.Query J) → query.Reply)
    (record : Inbox.InboxMessageRecord J) : Bool :=
  decide (mode = .unordered ∧ answers (.staleEventFilter record) = .stale)

/-- The record is not stale and the idempotency hook lets it be processed. -/
def Handles (mode : Inbox.Mode) (answers : (query : Inbox.Query J) → query.Reply)
    (record : Inbox.InboxMessageRecord J) : Bool :=
  !Stale mode answers record && decide (answers (.idempotencyHook record) = .process)

/-- The record that a question puts to the stale filter. -/
def filtered : Inbox.Query J → Option (Inbox.InboxMessageRecord J)
  | .staleEventFilter record => some record
  | .idempotencyHook _ => none
  | .handler _ => none

/-- The record that a question puts to the idempotency hook. -/
def hooked : Inbox.Query J → Option (Inbox.InboxMessageRecord J)
  | .staleEventFilter _ => none
  | .idempotencyHook record => some record
  | .handler _ => none

/-- The record that a question hands to the handler. -/
def handled : Inbox.Query J → Option (Inbox.InboxMessageRecord J)
  | .staleEventFilter _ => none
  | .idempotencyHook _ => none
  | .handler record => some record

theorem inbox_tally {recorded : Recorded} {summary : Inbox.RunSummary} :
    inboxCounters.Adds recorded summary (Inbox.RunSummary.tally recorded summary) := by
  cases recorded <;> refine ⟨rfl, rfl, fun other => ?_⟩ <;> cases other <;> rfl

theorem inquireFresh_counts (record : Inbox.InboxMessageRecord J) :
    (Inbox.inquireFresh record).Counts inboxCounters := by
  intro decision
  cases decision with
  | process => exact fun outcome recorded summary _ => inbox_tally
  | skip | alreadyApplied => exact fun recorded summary _ => inbox_tally

theorem inbox_kept (deployment : Deployment Worker) (mode : Worker → Inbox.Mode) :
    Kept (Inbox.service (J := J) deployment mode) inboxCounters where
  counts worker record := by
    change (Inbox.inquire (mode worker) record).Counts inboxCounters
    cases mode worker with
    | fifoPerOrderingKey => exact inquireFresh_counts record
    | unordered =>
        intro decision
        cases decision with
        | fresh => exact inquireFresh_counts record
        | stale =>
            intro recorded summary kind
            rw [kind.mpr rfl]
            exact ⟨rfl, rfl, fun other => by cases other <;> rfl⟩
  reclaimed _ _ := rfl
  claimed _ _ := rfl
  recorded _ _ recorded := by cases recorded <;> rfl

theorem outbox_once (deployment : Deployment Worker) (worker : Worker)
    (record : Outbox.OutboxMessageRecord J) :
    (((Outbox.service deployment).routine worker).inquire record).Once [] :=
  ⟨List.not_mem_nil, fun _ => trivial⟩

theorem inquireFresh_once {record : Inbox.InboxMessageRecord J} {before : List (Inbox.Query J)}
    (hook : .idempotencyHook record ∉ before) (handler : .handler record ∉ before) :
    (Inbox.inquireFresh record).Once before := by
  refine ⟨hook, fun decision => ?_⟩
  cases decision with
  | process => exact ⟨by simp [handler], fun _ => trivial⟩
  | skip | alreadyApplied => trivial

theorem inbox_once (deployment : Deployment Worker) (mode : Worker → Inbox.Mode) (worker : Worker)
    (record : Inbox.InboxMessageRecord J) :
    (((Inbox.service deployment mode).routine worker).inquire record).Once [] := by
  change (Inbox.inquire (mode worker) record).Once []
  cases mode worker with
  | fifoPerOrderingKey => exact inquireFresh_once List.not_mem_nil List.not_mem_nil
  | unordered =>
      refine ⟨List.not_mem_nil, fun decision => ?_⟩
      cases decision with
      | stale => trivial
      | fresh => exact inquireFresh_once (by simp) (by simp)

/-- What an inbox pass asks about each record, what it skips and what it hands to the
handler. -/
structure HandlesFresh (deployment : Deployment Worker) (mode : Worker → Inbox.Mode)
    (worker : Worker)
    (contexts : Nat → Context (Inbox.InboxMessageRecord J) (Inbox.Query J) Inbox.Query.Reply)
    (table : List (Inbox.InboxMessageRecord J)) (summary : Inbox.RunSummary)
    (answers : (query : Inbox.Query J) → query.Reply) : Prop where
  answered : Answered (Inbox.service deployment mode) worker contexts table answers
  skipped : summary.staleSkipped =
    ((Inbox.service deployment mode).batch worker contexts alone table).countP
      (Stale (mode worker) answers)
  bounded : summary.staleSkipped ≤ summary.processed
  ordered : mode worker = .fifoPerOrderingKey → summary.staleSkipped = 0
  filtered :
    (questions ((Inbox.service deployment mode).pass worker contexts alone
        table).requests).filterMap filtered =
      ((Inbox.service deployment mode).batch worker contexts alone table).filter
        fun _ => mode worker = .unordered
  hooked :
    (questions ((Inbox.service deployment mode).pass worker contexts alone
        table).requests).filterMap hooked =
      ((Inbox.service deployment mode).batch worker contexts alone table).filter
        fun record => !Stale (mode worker) answers record
  handled :
    (questions ((Inbox.service deployment mode).pass worker contexts alone
        table).requests).filterMap handled =
      ((Inbox.service deployment mode).batch worker contexts alone table).filter
        (Handles (mode worker) answers)

section Stale

variable (mode : Inbox.Mode) (answers : (query : Inbox.Query J) → query.Reply)

/-- The filter is asked in the mode that has one, then the hook about a record that is not
stale, and then the handler about a record that it is to handle. -/
theorem consulted_eq (record : Inbox.InboxMessageRecord J) :
    ((Inbox.routine mode).inquire record).consulted answers =
      (if mode = .unordered then [.staleEventFilter record] else []) ++
        (if Stale mode answers record then [] else [.idempotencyHook record]) ++
        if Handles mode answers record then [.handler record] else [] := by
  have fresh : (Inbox.inquireFresh record).consulted answers = .idempotencyHook record ::
      if answers (.idempotencyHook record) = .process then [.handler record] else [] := by
    simp only [Inbox.inquireFresh, Inquiry.consulted]
    cases answers (.idempotencyHook record) <;> rfl
  change (Inbox.inquire mode record).consulted answers = _
  cases mode with
  | fifoPerOrderingKey => simpa [Inbox.inquire, Handles, Stale] using fresh
  | unordered =>
      simp only [Inbox.inquire, Inquiry.consulted, Handles, Stale]
      cases answers (.staleEventFilter record) with
      | stale => rfl
      | fresh => simpa using fresh

/-- A callback that is asked about some of the records is asked about them in their order. -/
theorem consulted_flatMap {select : Inbox.Query J → Option (Inbox.InboxMessageRecord J)}
    {asks : Inbox.InboxMessageRecord J → Bool}
    (selects : ∀ record, (((Inbox.routine mode).inquire record).consulted answers).filterMap
      select = if asks record then [record] else [])
    (records : List (Inbox.InboxMessageRecord J)) :
    (records.flatMap fun record =>
        ((Inbox.routine mode).inquire record).consulted answers).filterMap select =
      records.filter asks := by
  induction records with
  | nil => rfl
  | cons record records ih =>
      rw [List.flatMap_cons, List.filterMap_append, ih, selects, List.filter_cons]
      split <;> rfl

theorem filtered_consulted (record : Inbox.InboxMessageRecord J) :
    (((Inbox.routine mode).inquire record).consulted answers).filterMap filtered =
      if decide (mode = .unordered) then [record] else [] := by
  rw [consulted_eq, List.filterMap_append, List.filterMap_append]
  split_ifs <;> simp_all [filtered, List.filterMap_cons]

theorem hooked_consulted (record : Inbox.InboxMessageRecord J) :
    (((Inbox.routine mode).inquire record).consulted answers).filterMap hooked =
      if !Stale mode answers record then [record] else [] := by
  rw [consulted_eq, List.filterMap_append, List.filterMap_append]
  split_ifs <;> simp_all [hooked, List.filterMap_cons]

theorem handled_consulted (record : Inbox.InboxMessageRecord J) :
    (((Inbox.routine mode).inquire record).consulted answers).filterMap handled =
      if Handles mode answers record then [record] else [] := by
  rw [consulted_eq, List.filterMap_append, List.filterMap_append]
  split_ifs <;> simp_all [handled, List.filterMap_cons]

/-- A stale record is counted as processed. -/
theorem counted_of_stale {record : Inbox.InboxMessageRecord J}
    (stale : Stale mode answers record = true) :
    (Inbox.routine mode).counted answers record = .done := by
  obtain ⟨rfl, answered⟩ := of_decide_eq_true stale
  have verdict : (Inbox.routine .unordered).concluded answers record = .done := by
    simp only [Routine.concluded, Inbox.routine, Inbox.inquire, Inquiry.concluded]
    rw [answered]
    rfl
  rw [Routine.counted, verdict]
  rfl

theorem staleSkipped_tallied (record : Inbox.InboxMessageRecord J)
    (summary : Inbox.RunSummary) :
    ((Inbox.routine mode).tallied answers record summary).staleSkipped =
      summary.staleSkipped + if Stale mode answers record then 1 else 0 := by
  have tally : ∀ recorded summary,
      (Inbox.RunSummary.tally recorded summary).staleSkipped = summary.staleSkipped :=
    fun recorded summary => by cases recorded <;> rfl
  have fresh : ∀ recorded, (((Inbox.inquireFresh record).concluded answers).2 recorded
      summary).staleSkipped = summary.staleSkipped := by
    intro recorded
    simp only [Inbox.inquireFresh, Inquiry.concluded]
    cases answers (.idempotencyHook record) <;> exact tally recorded summary
  change (((Inbox.inquire mode record).concluded answers).2 _ summary).staleSkipped = _
  cases mode with
  | fifoPerOrderingKey => exact fresh _
  | unordered =>
      simp only [Inbox.inquire, Inquiry.concluded, Stale]
      cases answers (.staleEventFilter record) with
      | stale => rfl
      | fresh => exact fresh _

/-- The stale records of a batch are counted. -/
theorem staleSkipped_ledger (summary : Inbox.RunSummary)
    (records : List (Inbox.InboxMessageRecord J)) :
    ((Inbox.routine mode).ledger answers summary records).staleSkipped =
      summary.staleSkipped + records.countP (Stale mode answers) := by
  induction records generalizing summary with
  | nil => rfl
  | cons record records ih =>
      have rest := ih ((Inbox.routine mode).tallied answers record summary)
      rw [staleSkipped_tallied] at rest
      refine rest.trans ?_
      rw [List.countP_cons]
      omega

end Stale

theorem handlesFresh_of_replies {deployment : Deployment Worker} {mode : Worker → Inbox.Mode}
    {worker : Worker}
    {contexts : Nat → Context (Inbox.InboxMessageRecord J) (Inbox.Query J) Inbox.Query.Reply}
    {table : List (Inbox.InboxMessageRecord J)} {answers : (query : Inbox.Query J) → query.Reply}
    (distinct : (table.map Inbox.InboxMessageRecord.id).Nodup)
    (describes : Describes (Inbox.service deployment mode) worker contexts table answers) :
    let service := Inbox.service deployment mode
    let batch := service.batch worker contexts alone table
    HandlesFresh deployment mode worker contexts table ((service.routine worker).ledger answers
      (service.opening (service.claim worker contexts alone table).1.1 batch.length) batch)
      answers := by
  intro service batch
  let opening := service.opening (service.claim worker contexts alone table).1.1 batch.length
  have skipped : ((service.routine worker).ledger answers opening batch).staleSkipped =
      batch.countP (Stale (mode worker) answers) :=
    (staleSkipped_ledger (mode worker) answers opening batch).trans (Nat.zero_add _)
  have processed : ((service.routine worker).ledger answers opening batch).processed =
      batch.countP fun record =>
        decide ((service.routine worker).counted answers record = .done) :=
    ((Routine.ledger_counts answers (inbox_kept deployment mode |>.counts worker) opening
      batch).2.2 .done).trans (Nat.zero_add _)
  have asked : questions (service.pass worker contexts alone table).requests =
      batch.flatMap fun record =>
        ((Inbox.routine (mode worker)).inquire record).consulted answers := by
    rw [← describes.same, questions_pass (Inbox.tabular deployment mode) (fun _ => rfl) distinct]
    rfl
  refine ⟨describes.answered, skipped, ?_, ?_, ?_, ?_, ?_⟩
  · rw [skipped, processed]
    apply List.countP_mono_left
    intro record _ stale
    exact decide_eq_true (counted_of_stale (mode worker) answers stale)
  · intro fifo
    rw [skipped, List.countP_eq_zero]
    intro record _
    simp [Stale, fifo]
  · rw [asked]
    exact consulted_flatMap _ _ (filtered_consulted (mode worker) answers) batch
  · rw [asked]
    exact consulted_flatMap _ _ (hooked_consulted (mode worker) answers) batch
  · rw [asked]
    exact consulted_flatMap _ _ (handled_consulted (mode worker) answers) batch

/-- A pass that nobody interferes with, and whose callbacks return, accounts exactly for
what it did. -/
theorem pass_accounts {Worker J : Type} (deployment : Deployment Worker)
    (mode : Worker → Inbox.Mode) :
    (let service := Outbox.service (J := J) deployment
      ∀ worker contexts table, (table.map service.store.id).Nodup →
        (∀ position query, ∃ reply, (contexts position).reply query = .ok reply) →
        (∃ summary, Accounts service outboxCounters worker contexts table summary) ∧
        questions (service.pass worker contexts alone table).requests =
          service.batch worker contexts alone table) ∧
    (let service := Inbox.service (J := J) deployment mode
      ∀ worker contexts table, (table.map service.store.id).Nodup →
        (∀ position query, ∃ reply, (contexts position).reply query = .ok reply) →
        ∃ summary answers, Accounts service inboxCounters worker contexts table summary ∧
          HandlesFresh deployment mode worker contexts table summary answers) := by
  constructor
  · intro service worker contexts table distinct returns
    obtain ⟨answers, describes⟩ := exists_answers (outbox_once deployment worker) returns distinct
    have replies : ∀ position, (answeringAs contexts answers position).reply =
        fun query => .ok (answers query) := fun _ => rfl
    have tabular := Outbox.tabular (J := J) deployment
    refine ⟨⟨_, .of_answeringAs describes
      (accounts_of_replies tabular (outbox_kept deployment) replies distinct)⟩, ?_⟩
    rw [← describes.same, questions_pass tabular replies distinct]
    exact List.flatMap_singleton' _
  · intro service worker contexts table distinct returns
    obtain ⟨answers, describes⟩ :=
      exists_answers (inbox_once deployment mode worker) returns distinct
    have replies : ∀ position, (answeringAs contexts answers position).reply =
        fun query => .ok (answers query) := fun _ => rfl
    have tabular := Inbox.tabular (J := J) deployment mode
    exact ⟨_, answers, .of_answeringAs describes
      (accounts_of_replies tabular (inbox_kept deployment mode) replies distinct),
      handlesFresh_of_replies distinct describes⟩

/-- The first worker has claimed a message and does not come back. -/
def stalled :=
  ((machine outbox).replay Machine.Free (.initial 0) (publishRun.take 4)).get (by decide +kernel)

/-- Passes after the lease has run out, in which the publisher is not available. -/
def unavailable (position : Nat) : Context (Outbox.OutboxMessageRecord Unit)
    (Outbox.OutboxMessageRecord Unit) fun _ => Outbox.PublishOutcome where
  time := (position + 40) * second
  choices := .plain
  reply _ := .ok (.retryable "unavailable")

def unorderedInbox := Inbox.service (J := Unit) deployment fun (_ : Bool) => .unordered

/-- Two messages, of which the first one has become stale. -/
def arrivals :=
  ((machine inbox).replay Machine.Free (.initial 0)
    [receiving 1 0 m1, receiving 2 1 m2]).get (by decide +kernel)

def filtering (position : Nat) :
    Context (Inbox.InboxMessageRecord Unit) (Inbox.Query Unit) Inbox.Query.Reply where
  time := (position + 2) * second
  choices := .plain
  reply
    | .staleEventFilter record => .ok (if record.messageId = "m1" then .stale else .fresh)
    | .idempotencyHook _ => .ok .process
    | .handler _ => .ok .processed

theorem pass_accounts_sample :
    (∃ summary, Accounts outbox outboxCounters true unavailable stalled.table summary ∧
      summary.reclaimed = 1 ∧ summary.claimed = 1 ∧ summary.retryScheduled = 1) ∧
    ∃ summary answers,
      Accounts unorderedInbox inboxCounters false filtering arrivals.table summary ∧
      HandlesFresh deployment (fun _ => .unordered) false filtering arrivals.table summary
        answers ∧
      summary.claimed = 2 ∧ summary.processed = 2 ∧ summary.staleSkipped = 1 ∧
      ((unorderedInbox.batch false filtering alone arrivals.table).filter
        (Handles .unordered answers)).map (·.messageId) = ["m2"] := by
  have claim := pass_accounts (J := Unit) deployment fun (_ : Bool) => .unordered
  have retried := (claim.1 true unavailable stalled.table (by decide +kernel)
    fun _ _ => ⟨_, rfl⟩).1
  have skipped := claim.2 false filtering arrivals.table (by decide +kernel)
    fun position query => by cases query <;> exact ⟨_, rfl⟩
  constructor
  · obtain ⟨summary, accounts⟩ := retried
    exact ⟨summary, accounts, accounts.reclaimed.trans (by decide +kernel),
      accounts.claimed.trans (by decide +kernel),
      (accounts.counted .retryScheduled).trans (by decide +kernel)⟩
  · obtain ⟨summary, answers, accounts, handles⟩ := skipped
    have returned : (unorderedInbox.pass false filtering alone arrivals.table).result =
        .ok summary := accounts.returned
    have skips : (unorderedInbox.pass false filtering alone arrivals.table).result.map
        (·.staleSkipped) = .ok 1 := by decide +kernel
    have handed : (questions (unorderedInbox.pass false filtering alone
        arrivals.table).requests).filterMap handled =
      (unorderedInbox.batch false filtering alone arrivals.table).filter
        (Handles .unordered answers) := handles.handled
    refine ⟨summary, answers, accounts, handles, accounts.claimed.trans (by decide +kernel),
      (accounts.counted .done).trans (by decide +kernel), ?_, ?_⟩
    · rw [returned] at skips
      exact Except.ok.inj skips
    · rw [← handed]
      decide +kernel

end Pactix.Guarantees
