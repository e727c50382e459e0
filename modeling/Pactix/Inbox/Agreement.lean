import Pactix.Foundation.Trace
import Pactix.Inbox.Service
import Pactix.Leasing.Agreement

/-!
# Inbox calls on both dialects

Claims in both modes, reclaiming and marks, compared as in the outbox.
-/

namespace Pactix.Inbox

open Foundation Queue

variable {J : Type}

/-! ## Readings -/

/-- A row or record with every datetime as the aware UTC value of its instant, and the
headers in order. -/
def InboxMessageRecord.reading (row : InboxMessageRecord J) : InboxMessageRecord J :=
  { row with
    headers := row.headers.sorted
    availableAt := .utc row.availableAt.instant
    leaseUntil := row.leaseUntil.map fun lease => .utc lease.instant
    receivedAt := .utc row.receivedAt.instant
    updatedAt := .utc row.updatedAt.instant
    processedAt := row.processedAt.map fun time => .utc time.instant }

@[simp] theorem reading_mapRecord (row : InboxMessageRecord J) :
    (mapRecord row).reading = row.reading := by
  simp [InboxMessageRecord.reading, mapRecord, Option.map_map, Function.comp_def]

/-- The record that an entry was read from. -/
def restore (entry : Entry UUID (String × String) Int (Content J)) : InboxMessageRecord J where
  id := entry.card.body.id
  source := entry.card.body.source
  messageId := entry.card.body.messageId
  eventType := entry.card.body.eventType
  messageKey := entry.card.body.messageKey
  orderingKey := entry.card.body.orderingKey
  correlationId := entry.card.body.correlationId
  payload := entry.card.body.payload
  headers := entry.card.body.headers
  status :=
    match entry.phase with
    | .pending => .pending
    | .processing => .processing
    | .done => .processed
    | .failed => .failed
  attempts := entry.attempts
  maxAttempts := entry.card.body.maxAttempts
  availableAt := .utc entry.due
  leaseUntil := entry.lease.map .utc
  lastError := entry.error
  receivedAt := .utc entry.card.stamp
  updatedAt := .utc entry.updated
  processedAt := entry.finished.map .utc

/-- The entry of a reading leaves nothing out. -/
theorem restore_entry (row : InboxMessageRecord J) : restore row.reading.entry = row.reading := by
  have status : (restore row.reading.entry).status = row.status := by
    simp only [restore, InboxMessageRecord.entry, InboxMessageRecord.reading]
    cases row.status <;> rfl
  unfold restore at status ⊢
  simp [InboxMessageRecord.entry, InboxMessageRecord.reading, InboxMessageRecord.content,
    Option.map_map, Function.comp_def] at status ⊢
  exact status

/-- Readings of rows as entries. -/
def readings : View (columns (J := J)) (Content J) where
  entry row := row.reading.entry
  id_entry _ := rfl
  key_entry _ := rfl
  stamp_entry row := DateTime.instant_utc _
  due_entry row := DateTime.instant_utc _
  lease_entry row := by
    simp [InboxMessageRecord.entry, InboxMessageRecord.reading, columns, Option.map_map,
      Function.comp_def]
  pending_entry row := view.pending_entry row.reading
  processing_entry row := view.processing_entry row.reading
  entry_release now row := by
    rw [← DateTime.instant_utc now.instant]
    exact view.entry_release (.utc now.instant) row.reading
  entry_take lease now row := by
    rw [← DateTime.instant_utc now.instant, ← DateTime.instant_utc lease.instant]
    exact view.entry_take (.utc lease.instant) (.utc now.instant) row.reading
  entry_mapRecord row := congrArg InboxMessageRecord.entry (reading_mapRecord row)

/-- Tables with the same entries have the same readings. -/
theorem readings_eq {left right : Table J}
    (same : left.map readings.entry = right.map readings.entry) :
    left.map (·.reading) = right.map (·.reading) := by
  have restored := congrArg (List.map restore) same
  simpa only [List.map_map, Function.comp_def, readings, restore_entry] using restored

/-- Tables with the same readings have the same entries. -/
theorem entries_eq {left right : Table J}
    (same : left.map (fun row => (mapRecord row).reading) =
      right.map fun row => (mapRecord row).reading) :
    left.map readings.entry = right.map readings.entry := by
  have entries := congrArg (List.map InboxMessageRecord.entry) same
  simp only [List.map_map, Function.comp_def, reading_mapRecord] at entries
  exact entries

section Marks

variable (row : InboxMessageRecord J)

theorem entry_processed (processedAt : DateTime) :
    readings.entry { row with
      status := .processed, leaseUntil := none, processedAt := some processedAt
      updatedAt := processedAt } =
      (readings.entry row).finish processedAt.instant := by
  simp [readings, InboxMessageRecord.reading, InboxMessageRecord.entry, Entry.finish,
    InboxMessageRecord.content, InboxMessageRecord.key, InboxStatus.phase]

theorem entry_retried (error : String) (availableAt updatedAt : DateTime) :
    readings.entry { row with
      status := .pending, attempts := row.attempts + 1, availableAt, leaseUntil := none
      lastError := some error, updatedAt } =
      (readings.entry row).retry error availableAt.instant updatedAt.instant := by
  simp [readings, InboxMessageRecord.reading, InboxMessageRecord.entry, Entry.retry,
    InboxMessageRecord.content, InboxMessageRecord.key, InboxStatus.phase]

theorem entry_failed (error : String) (updatedAt : DateTime) :
    readings.entry { row with
      status := .failed, attempts := row.attempts + 1, leaseUntil := none
      lastError := some error, updatedAt } =
      (readings.entry row).fail error updatedAt.instant := by
  simp [readings, InboxMessageRecord.reading, InboxMessageRecord.entry, Entry.fail,
    InboxMessageRecord.content, InboxMessageRecord.key, InboxStatus.phase]

end Marks

/-- A mark is the same settling on either dialect. -/
theorem map_markProcessed (dialect : Dialect) (id : UUID) (processedAt : DateTime)
    (table : Table J) :
    (markProcessed dialect id processedAt table).map readings.entry =
      updateWhere (fun entry => decide (entry.card.id = id))
        (Entry.finish processedAt.instant) (table.map readings.entry) := by
  rw [← Dialect.instant_bound dialect processedAt]
  exact readings.map_updateById (fun row => entry_processed row _) table

theorem map_markRetry (dialect : Dialect) (now : DateTime) (id : UUID) (error : String)
    (availableAt : DateTime) (table : Table J) :
    (markRetry dialect now id error availableAt table).map readings.entry =
      updateWhere (fun entry => decide (entry.card.id = id))
        (Entry.retry error availableAt.instant now.instant) (table.map readings.entry) := by
  rw [← Dialect.instant_bound dialect availableAt, ← Dialect.instant_bound dialect now]
  exact readings.map_updateById (fun row => entry_retried row error _ _) table

theorem map_markFailed (dialect : Dialect) (now : DateTime) (id : UUID) (error : String)
    (table : Table J) :
    (markFailed dialect now id error table).map readings.entry =
      updateWhere (fun entry => decide (entry.card.id = id))
        (Entry.fail error now.instant) (table.map readings.entry) := by
  rw [← Dialect.instant_bound dialect now]
  exact readings.map_updateById (fun row => entry_failed row error _) table

/-! ## Calls -/

/-- The calls of a worker on an `InboxStore`, with the clock readings that they take
themselves. -/
inductive Operation where
  | reclaimExpired (now : DateTime)
  | claimReady (config : PactixConfig) (now : DateTime)
  | claimReadyUnordered (config : PactixConfig) (now : DateTime)
  | markProcessed (id : UUID) (processedAt : DateTime)
  | markRetry (time : Int) (id : UUID) (error : String) (availableAt : DateTime)
  | markFailed (time : Int) (id : UUID) (error : String)

/-- What the calls return. -/
inductive Answer (J : Type) where
  | reclaimed (count : Nat)
  | claimed (records : List (InboxMessageRecord J))
  | marked (result : Except Error Unit)

/-- The datetimes among the arguments. -/
def Operation.datetimes : Operation → List DateTime
  | .reclaimExpired now => [now]
  | .claimReady _ now => [now]
  | .claimReadyUnordered _ now => [now]
  | .markProcessed _ processedAt => [processedAt]
  | .markRetry _ _ _ availableAt => [availableAt]
  | .markFailed _ _ _ => []

/-- The error text among the arguments. -/
def Operation.bodies : Operation → List String
  | .markRetry _ _ error _ => [error]
  | .markFailed _ _ error => [error]
  | _ => []

/-- An operation, with what the database decides on either dialect. -/
structure Statement (J : Type) where
  operation : Operation
  choices : Dialect → Choices (InboxMessageRecord J) UUID

/-- Datetimes are aware and no row is locked. -/
structure Statement.Plain (statement : Statement J) : Prop where
  aware : ∀ time ∈ statement.operation.datetimes, time.utcoffset.isSome = true
  unlocked : ∀ dialect id, (statement.choices dialect).locked id = false

/-- Moreover an error text has at most 65,535 bytes. -/
structure Statement.Admissible (statement : Statement J) : Prop extends statement.Plain where
  room : ∀ text ∈ statement.operation.bodies, TextType.text.Holds text

/-- Perform a call in a transaction of its own, which an error rolls back. -/
def perform (dialect : Dialect) (statement : Statement J) (table : Table J) :
    Answer J × Table J :=
  match statement.operation with
  | .reclaimExpired now =>
      let (table, count) := reclaimExpired dialect now table
      (.reclaimed count, table)
  | .claimReady config now =>
      let (table, records) := claimReady config dialect (statement.choices dialect) now table
      (.claimed records, table)
  | .claimReadyUnordered config now =>
      let (table, records) :=
        claimReadyUnordered config dialect (statement.choices dialect) now table
      (.claimed records, table)
  | .markProcessed id processedAt =>
      (.marked (.ok ()), markProcessed dialect id processedAt table)
  | .markRetry time id error availableAt =>
      let marked := markRetry dialect (.utc time) id error availableAt table
      let (result, table) := columns.markOrRefuse dialect id error marked table
      (.marked result, table)
  | .markFailed time id error =>
      let marked := markFailed dialect (.utc time) id error table
      let (result, table) := columns.markOrRefuse dialect id error marked table
      (.marked result, table)

/-! ## Agreement -/

namespace Answer

/-- Both calls have raised or returned the same: claimed records by their readings, in any
order. -/
def Agree : Answer J → Answer J → Prop
  | .reclaimed left, .reclaimed right => left = right
  | .claimed left, .claimed right => (left.map (·.reading)).Perm (right.map (·.reading))
  | .marked (.ok _), .marked (.ok _) => True
  | .marked (.error _), .marked (.error _) => True
  | _, _ => False

/-- The records that a claim has returned. -/
def returned : Answer J → List (InboxMessageRecord J)
  | .claimed records => records
  | _ => []

end Answer

/-- Every returned record is what a later read maps from the stored row. -/
def Stored (reached : Answer J × Table J) : Prop :=
  ∀ record ∈ reached.1.returned, ∃ row ∈ reached.2, (mapRecord row).reading = record.reading

/-- Two dialects after the same call. -/
structure CallsAgree (left right : Answer J × Table J) : Prop where
  answers : left.1.Agree right.1
  tables : left.2.map (fun row => (mapRecord row).reading) =
    right.2.map fun row => (mapRecord row).reading
  stored_left : Stored left
  stored_right : Stored right

/-- Tables with the same readings, before the calls to come. -/
structure SameRows (statements : List (Statement J)) (left right : Table J) : Prop where
  same : left.map readings.entry = right.map readings.entry
  distinct : (left.map (·.id)).Nodup
  untied : (left.map (·.receivedAt.instant)).Nodup
  admissible : ∀ statement ∈ statements, statement.Admissible

/-- The id and the `received_at` of a row. -/
def InboxMessageRecord.origin (row : InboxMessageRecord J) : UUID × Int :=
  (row.id, row.receivedAt.instant)

/-- No call of a worker changes which rows there are. -/
theorem origins_perform (dialect : Dialect) (statement : Statement J)
    (table : Table J) :
    (perform dialect statement table).2.map (·.origin) = table.map (·.origin) := by
  obtain ⟨operation, choices⟩ := statement
  cases operation with
  | reclaimExpired now => exact Columns.map_reclaimExpired_fixed (fun _ _ _ _ => rfl) _ _ _
  | claimReady config now => exact Columns.map_claimReady_fixed (fun _ _ _ _ => rfl) _ _ _ _ _ _ _
  | claimReadyUnordered config now =>
      exact Columns.map_claimReady_fixed (fun _ _ _ _ => rfl) _ _ _ _ _ _ _
  | markProcessed id processedAt =>
      apply map_updateWhere_fixed
      intro row
      rfl
  | markRetry time id error availableAt | markFailed time id error =>
      apply columns.map_markOrRefuse_fixed
      apply map_updateWhere_fixed
      intro row
      rfl

/-- Claims of the same entries are claims of the same readings. -/
theorem perm_readings {left right : List (InboxMessageRecord J)}
    (claimed : (left.map readings.entry).Perm (right.map readings.entry)) :
    (left.map (·.reading)).Perm (right.map (·.reading)) := by
  have restored := claimed.map restore
  simpa only [List.map_map, Function.comp_def, readings, restore_entry] using restored

theorem stored_of_mem {record : InboxMessageRecord J} {table : Table J}
    (stored : readings.entry record ∈ table.map readings.entry) :
    ∃ row ∈ table, (mapRecord row).reading = record.reading := by
  obtain ⟨row, membership, same⟩ := List.mem_map.mp stored
  have restored := congrArg restore same
  simp only [readings, restore_entry] at restored
  exact ⟨row, membership, (reading_mapRecord row).trans restored⟩

theorem stored_none {reached : Answer J × Table J} (none : reached.1.returned = []) :
    Stored reached := by
  simp [Stored, none]

theorem agree_of_same {left right : Answer J × Table J} (answers : left.1.Agree right.1)
    (same : left.2.map readings.entry = right.2.map readings.entry)
    (storedLeft : Stored left) (storedRight : Stored right) : CallsAgree left right := by
  refine ⟨answers, ?_, storedLeft, storedRight⟩
  simp only [reading_mapRecord]
  exact readings_eq same

namespace SameRows

variable {statement : Statement J} {statements : List (Statement J)}
variable {left right : Table J}

/-- After a call, tables with the same readings are alike again. -/
theorem next (alike : SameRows (statement :: statements) left right)
    (leftDialect rightDialect : Dialect)
    (same : (perform leftDialect statement left).2.map readings.entry =
      (perform rightDialect statement right).2.map readings.entry) :
    SameRows statements (perform leftDialect statement left).2
      (perform rightDialect statement right).2 := by
  have origins := origins_perform leftDialect statement left
  have ids := congrArg (List.map Prod.fst) origins
  have times := congrArg (List.map Prod.snd) origins
  simp only [List.map_map, Function.comp_def, InboxMessageRecord.origin] at ids times
  exact ⟨same, ids ▸ alike.distinct, times ▸ alike.untied, fun other later =>
    alike.admissible other (List.mem_cons_of_mem _ later)⟩

/-- A claim on two dialects is answered alike, whichever query it uses. -/
theorem claim (alike : SameRows (statement :: statements) left right) (config : PactixConfig)
    (leftDialect rightDialect : Dialect) (query : ClaimQuery) (now : DateTime) :
    let leftClaimed := Inbox.claim config leftDialect query (statement.choices leftDialect) now left
    let rightClaimed :=
      Inbox.claim config rightDialect query (statement.choices rightDialect) now right
    leftClaimed.1.map readings.entry = rightClaimed.1.map readings.entry ∧
      CallsAgree (.claimed leftClaimed.2, leftClaimed.1) (.claimed rightClaimed.2, rightClaimed.1)
    := by
  intro leftClaimed rightClaimed
  have unlocked := (alike.admissible statement List.mem_cons_self).unlocked
  obtain ⟨same, claimed⟩ := readings.claimReady_congr alike.same alike.distinct alike.untied
    leftDialect rightDialect (unlocked leftDialect) (unlocked rightDialect) query
    config.inboxBatchSize config.leaseDuration now
  refine ⟨same, agree_of_same (perm_readings claimed) same ?_ ?_⟩
  · intro record returned
    exact stored_of_mem (readings.mem_of_claimed _ _ _ _ _ _ alike.distinct returned)
  · intro record returned
    have distinct : (right.map columns.id).Nodup := readings.ids_eq alike.same ▸ alike.distinct
    exact stored_of_mem (readings.mem_of_claimed _ _ _ _ _ _ distinct returned)

/-- One call on two dialects is answered alike and keeps the tables alike. -/
theorem perform (alike : SameRows (statement :: statements) left right)
    (leftDialect rightDialect : Dialect) :
    CallsAgree (perform leftDialect statement left)
        (perform rightDialect statement right) ∧
      SameRows statements (Inbox.perform leftDialect statement left).2
        (Inbox.perform rightDialect statement right).2 := by
  have claims := fun config query now => alike.claim config leftDialect rightDialect query now
  have room := (alike.admissible statement List.mem_cons_self).room
  obtain ⟨operation, choices⟩ := statement
  cases operation with
  | reclaimExpired now =>
      obtain ⟨same, counted⟩ :=
        readings.reclaimExpired_congr alike.same leftDialect rightDialect now
      exact ⟨agree_of_same counted same (stored_none rfl) (stored_none rfl),
        alike.next _ _ same⟩
  | claimReady config now =>
      obtain ⟨same, agree⟩ := claims config .fifo now
      exact ⟨agree, alike.next _ _ same⟩
  | claimReadyUnordered config now =>
      obtain ⟨same, agree⟩ := claims config .unordered now
      exact ⟨agree, alike.next _ _ same⟩
  | markProcessed id processedAt =>
      have same : (markProcessed leftDialect id processedAt left).map readings.entry =
          (markProcessed rightDialect id processedAt right).map readings.entry := by
        rw [map_markProcessed, map_markProcessed, alike.same]
      exact ⟨agree_of_same trivial same (stored_none rfl) (stored_none rfl),
        alike.next _ _ same⟩
  | markRetry time id error availableAt =>
      have same : (markRetry leftDialect (.utc time) id error availableAt left).map
          readings.entry =
            (markRetry rightDialect (.utc time) id error availableAt right).map
              readings.entry := by
        rw [map_markRetry, map_markRetry, alike.same]
      have next : _ → SameRows statements (Inbox.perform leftDialect _ left).2
          (Inbox.perform rightDialect _ right).2 := alike.next leftDialect rightDialect
      simp only [Inbox.perform,
        columns.markOrRefuse_holds (room error (List.mem_singleton.mpr rfl))] at next ⊢
      exact ⟨agree_of_same trivial same (stored_none rfl) (stored_none rfl), next same⟩
  | markFailed time id error =>
      have same : (markFailed leftDialect (.utc time) id error left).map readings.entry =
          (markFailed rightDialect (.utc time) id error right).map readings.entry := by
        rw [map_markFailed, map_markFailed, alike.same]
      have next : _ → SameRows statements (Inbox.perform leftDialect _ left).2
          (Inbox.perform rightDialect _ right).2 := alike.next leftDialect rightDialect
      simp only [Inbox.perform,
        columns.markOrRefuse_holds (room error (List.mem_singleton.mpr rfl))] at next ⊢
      exact ⟨agree_of_same trivial same (stored_none rfl) (stored_none rfl), next same⟩

end SameRows

end Pactix.Inbox
