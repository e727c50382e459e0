import Pactix.Foundation.Trace
import Pactix.Leasing.Agreement
import Pactix.Outbox.Service

/-!
# Outbox calls on both dialects

The calls of an `OutboxStore` one after the other, and what it means that they agree on
two dialects: rows and records are compared as readings, in which datetimes are instants.
-/

namespace Pactix.Outbox

open Foundation Queue

variable {J : Type}

/-! ## Readings -/

/-- A row or record with every datetime as the aware UTC value of its instant, and the
headers in order. -/
def OutboxMessageRecord.reading (row : OutboxMessageRecord J) : OutboxMessageRecord J :=
  { row with
    headers := row.headers.sorted
    availableAt := .utc row.availableAt.instant
    leaseUntil := row.leaseUntil.map fun lease => .utc lease.instant
    createdAt := .utc row.createdAt.instant
    updatedAt := .utc row.updatedAt.instant
    publishedAt := row.publishedAt.map fun time => .utc time.instant }

@[simp] theorem reading_mapRecord (row : OutboxMessageRecord J) :
    (mapRecord row).reading = row.reading := by
  simp [OutboxMessageRecord.reading, mapRecord, Option.map_map, Function.comp_def]

@[simp] theorem reading_recordValues (record : OutboxMessageRecord J) (dialect : Dialect) :
    (recordValues record dialect).reading = record.reading := by
  simp [OutboxMessageRecord.reading, recordValues, Option.map_map, Function.comp_def]

/-- The record that an entry was read from. -/
def restore (entry : Entry UUID (String × String) Int (Content J)) : OutboxMessageRecord J where
  id := entry.card.body.id
  messageId := entry.card.body.messageId
  eventType := entry.card.body.eventType
  messageKey := entry.card.body.messageKey
  orderingKey := entry.card.body.orderingKey
  correlationId := entry.card.body.correlationId
  payload := entry.card.body.payload
  headers := entry.card.body.headers
  status :=
    match entry.phase with
    | .pending => .pending
    | .processing => .processing
    | .done => .published
    | .failed => .failed
  attempts := entry.attempts
  maxAttempts := entry.card.body.maxAttempts
  availableAt := .utc entry.due
  leaseUntil := entry.lease.map .utc
  lastError := entry.error
  createdAt := .utc entry.card.stamp
  updatedAt := .utc entry.updated
  publishedAt := entry.finished.map .utc

/-- The entry of a reading leaves nothing out. -/
theorem restore_entry (row : OutboxMessageRecord J) : restore row.reading.entry = row.reading := by
  have status : (restore row.reading.entry).status = row.status := by
    simp only [restore, OutboxMessageRecord.entry, OutboxMessageRecord.reading]
    cases row.status <;> rfl
  unfold restore at status ⊢
  simp [OutboxMessageRecord.entry, OutboxMessageRecord.reading, OutboxMessageRecord.content,
    Option.map_map, Function.comp_def] at status ⊢
  exact status

/-- Readings of rows as entries. -/
def readings : View (columns (J := J)) (Content J) where
  entry row := row.reading.entry
  id_entry _ := rfl
  key_entry _ := rfl
  stamp_entry row := DateTime.instant_utc _
  due_entry row := DateTime.instant_utc _
  lease_entry row := by
    simp [OutboxMessageRecord.entry, OutboxMessageRecord.reading, columns, Option.map_map,
      Function.comp_def]
  pending_entry row := view.pending_entry row.reading
  processing_entry row := view.processing_entry row.reading
  entry_release now row := by
    rw [← DateTime.instant_utc now.instant]
    exact view.entry_release (.utc now.instant) row.reading
  entry_take lease now row := by
    rw [← DateTime.instant_utc now.instant, ← DateTime.instant_utc lease.instant]
    exact view.entry_take (.utc lease.instant) (.utc now.instant) row.reading
  entry_mapRecord row := congrArg OutboxMessageRecord.entry (reading_mapRecord row)

/-- Tables with the same entries have the same readings. -/
theorem readings_eq {left right : Table J}
    (same : left.map readings.entry = right.map readings.entry) :
    left.map (·.reading) = right.map (·.reading) := by
  have restored := congrArg (List.map restore) same
  simpa only [List.map_map, Function.comp_def, readings, restore_entry] using restored

/-! ## Calls -/

/-- The calls of `OutboxStore`s, with the configuration of the store where it counts, and the
clock readings that they take themselves. -/
inductive Operation (J : Type) where
  | append (arrival : Arrival J)
  | reclaimExpired (now : DateTime)
  | claimReady (config : PactixConfig) (now : DateTime)
  | markPublished (id : UUID) (publishedAt : DateTime)
  | markRetry (time : Int) (id : UUID) (error : String) (availableAt : DateTime)
  | markFailed (time : Int) (id : UUID) (error : String)
  | listByStatus (status : OutboxStatus)

/-- What the calls return. -/
inductive Answer (J : Type) where
  | appended (result : Except Error (OutboxMessageRecord J))
  | reclaimed (count : Nat)
  | claimed (records : List (OutboxMessageRecord J))
  | marked (result : Except Error Unit)
  | listed (records : List (OutboxMessageRecord J))

namespace Operation

/-- The datetimes among the arguments. -/
def datetimes : Operation J → List DateTime
  | .append _ => []
  | .reclaimExpired now => [now]
  | .claimReady _ now => [now]
  | .markPublished _ publishedAt => [publishedAt]
  | .markRetry _ _ _ availableAt => [availableAt]
  | .markFailed _ _ _ => []
  | .listByStatus _ => []

/-- The indexed texts among the arguments. -/
def texts : Operation J → List String
  | .append arrival =>
      arrival.envelope.metadata.messageId :: arrival.envelope.metadata.eventType ::
        (arrival.envelope.metadata.orderingKey.toList ++
          arrival.envelope.metadata.correlationId.toList)
  | _ => []

/-- The texts among the arguments that are not indexed: a message key or an error. -/
def bodies : Operation J → List String
  | .append arrival => arrival.envelope.metadata.messageKey.toList
  | .markRetry _ _ error _ => [error]
  | .markFailed _ _ error => [error]
  | _ => []

/-- The `created_at` that the operation gives to a row. -/
def createdAt : Operation J → Option Int
  | .append arrival => some arrival.time
  | _ => none

end Operation

/-- An operation, with what the database decides on either dialect. -/
structure Statement (J : Type) where
  operation : Operation J
  choices : Dialect → Choices (OutboxMessageRecord J) UUID

/-- Datetimes are aware, indexed texts have at most 255 characters, and no row is locked. -/
structure Statement.Plain (statement : Statement J) : Prop where
  aware : ∀ time ∈ statement.operation.datetimes, time.utcoffset.isSome = true
  short : ∀ text ∈ statement.operation.texts, text.length ≤ 255
  unlocked : ∀ dialect id, (statement.choices dialect).locked id = false

/-- Moreover the other texts have at most 65,535 bytes. -/
structure Statement.Admissible (statement : Statement J) : Prop extends statement.Plain where
  room : ∀ text ∈ statement.operation.bodies, TextType.text.Holds text

/-- Perform a call in a transaction of its own, which an error rolls back. -/
def perform (dialect : Dialect) (statement : Statement J) (table : Table J) :
    Answer J × Table J :=
  match statement.operation with
  | .append arrival =>
      match append arrival.config dialect arrival.id (.utc arrival.time) arrival.envelope table with
      | .ok (table, record) => (.appended (.ok record), table)
      | .error error => (.appended (.error error), table)
  | .reclaimExpired now =>
      let (table, count) := reclaimExpired dialect now table
      (.reclaimed count, table)
  | .claimReady config now =>
      let (table, records) := claimReady config dialect (statement.choices dialect) now table
      (.claimed records, table)
  | .markPublished id publishedAt =>
      (.marked (.ok ()), markPublished dialect id publishedAt table)
  | .markRetry time id error availableAt =>
      let marked := markRetry dialect (.utc time) id error availableAt table
      let (result, table) := columns.markOrRefuse dialect id error marked table
      (.marked result, table)
  | .markFailed time id error =>
      let marked := markFailed dialect (.utc time) id error table
      let (result, table) := columns.markOrRefuse dialect id error marked table
      (.marked result, table)
  | .listByStatus status =>
      (.listed (listByStatus (statement.choices dialect) status table), table)

/-- A failure is recorded or refused. -/
theorem perform_markFailed (dialect : Dialect) (time : Int) (id : UUID) (error : String)
    (choices : Dialect → Choices (OutboxMessageRecord J) UUID) (table : Table J) :
    (perform dialect ⟨.markFailed time id error, choices⟩ table).1 =
      .marked (columns.markOrRefuse dialect id error
        (markFailed dialect (.utc time) id error table) table).1 :=
  rfl

/-! ## Agreement -/

namespace Answer

/-- Both calls have raised or returned the same: records by their readings, claimed ones in
any order. -/
def Agree : Answer J → Answer J → Prop
  | .appended (.ok left), .appended (.ok right) => left.reading = right.reading
  | .appended (.error _), .appended (.error _) => True
  | .reclaimed left, .reclaimed right => left = right
  | .claimed left, .claimed right => (left.map (·.reading)).Perm (right.map (·.reading))
  | .marked (.ok _), .marked (.ok _) => True
  | .marked (.error _), .marked (.error _) => True
  | .listed left, .listed right => left.map (·.reading) = right.map (·.reading)
  | _, _ => False

/-- The records that a claim or an append has returned. -/
def returned : Answer J → List (OutboxMessageRecord J)
  | .appended (.ok record) => [record]
  | .claimed records => records
  | _ => []

end Answer

/-- Every returned record is what a later read maps from the stored row. -/
def Returned (reached : Answer J × Table J) : Prop :=
  ∀ record ∈ reached.1.returned, ∃ row ∈ reached.2, (mapRecord row).reading = record.reading

/-- Two dialects after the same call. -/
structure Agree (left right : Answer J × Table J) : Prop where
  answers : left.1.Agree right.1
  tables : left.2.map (fun row => (mapRecord row).reading) =
    right.2.map fun row => (mapRecord row).reading
  returned_left : Returned left
  returned_right : Returned right

/-- Tables with the same readings, before the calls to come. -/
structure Alike (statements : List (Statement J)) (left right : Table J) : Prop where
  same : left.map readings.entry = right.map readings.entry
  distinct : (left.map (·.id)).Nodup
  untied : (left.map (·.createdAt.instant) ++
    statements.filterMap (·.operation.createdAt)).Nodup
  admissible : ∀ statement ∈ statements, statement.Admissible

/-- The id and the `created_at` of a row. -/
def OutboxMessageRecord.origin (row : OutboxMessageRecord J) : UUID × Int :=
  (row.id, row.createdAt.instant)

/-- Only `append` changes which rows there are. -/
theorem origins_perform (dialect : Dialect) {statement : Statement J}
    (adds : statement.operation.createdAt = none) (table : Table J) :
    (perform dialect statement table).2.map (·.origin) = table.map (·.origin) := by
  obtain ⟨operation, choices⟩ := statement
  cases operation with
  | append arrival => simp [Operation.createdAt] at adds
  | reclaimExpired now => exact Columns.map_reclaimExpired_fixed (fun _ _ _ _ => rfl) _ _ _
  | claimReady config now => exact Columns.map_claimReady_fixed (fun _ _ _ _ => rfl) _ _ _ _ _ _ _
  | markPublished id publishedAt =>
      apply map_updateWhere_fixed
      intro row
      rfl
  | markRetry time id error availableAt | markFailed time id error =>
      apply columns.map_markOrRefuse_fixed
      apply map_updateWhere_fixed
      intro row
      rfl
  | listByStatus status => rfl

namespace Alike

variable {statement : Statement J} {statements : List (Statement J)}
variable {left right : Table J}

theorem unlocked (alike : Alike (statement :: statements) left right) (dialect : Dialect) :
    ∀ id, (statement.choices dialect).locked id = false :=
  (alike.admissible statement List.mem_cons_self).unlocked dialect

/-- The rows that are there have arrived at different times. -/
theorem untied_rows (alike : Alike statements left right) :
    (left.map (·.createdAt.instant)).Nodup :=
  alike.untied.sublist (List.sublist_append_left _ _)

/-- After a call that adds no row, tables with the same readings are alike again. -/
theorem next (alike : Alike (statement :: statements) left right)
    (adds : statement.operation.createdAt = none) (leftDialect rightDialect : Dialect)
    (same : (perform leftDialect statement left).2.map readings.entry =
      (perform rightDialect statement right).2.map readings.entry) :
    Alike statements (perform leftDialect statement left).2
      (perform rightDialect statement right).2 := by
  have origins := origins_perform leftDialect adds left
  have ids := congrArg (List.map Prod.fst) origins
  have times := congrArg (List.map Prod.snd) origins
  simp only [List.map_map, Function.comp_def, OutboxMessageRecord.origin] at ids times
  refine ⟨same, ids ▸ alike.distinct, ?_, fun other later =>
    alike.admissible other (List.mem_cons_of_mem _ later)⟩
  have untied := alike.untied
  rw [List.filterMap_cons, adds] at untied
  rw [times]
  exact untied

end Alike

theorem agree_of_same {left right : Answer J × Table J} (answers : left.1.Agree right.1)
    (same : left.2.map readings.entry = right.2.map readings.entry)
    (returnedLeft : Returned left) (returnedRight : Returned right) : Agree left right := by
  refine ⟨answers, ?_, returnedLeft, returnedRight⟩
  simp only [reading_mapRecord]
  exact readings_eq same

/-- Claims of the same entries are claims of the same readings. -/
theorem perm_readings {left right : List (OutboxMessageRecord J)}
    (claimed : (left.map readings.entry).Perm (right.map readings.entry)) :
    (left.map (·.reading)).Perm (right.map (·.reading)) := by
  have restored := claimed.map restore
  simpa only [List.map_map, Function.comp_def, readings, restore_entry] using restored

theorem stored_of_mem {record : OutboxMessageRecord J} {table : Table J}
    (stored : readings.entry record ∈ table.map readings.entry) :
    ∃ row ∈ table, (mapRecord row).reading = record.reading := by
  obtain ⟨row, membership, same⟩ := List.mem_map.mp stored
  have restored := congrArg restore same
  simp only [readings, restore_entry] at restored
  exact ⟨row, membership, (reading_mapRecord row).trans restored⟩

/-- A call that returns no record returns nothing that is not stored. -/
theorem returned_none {reached : Answer J × Table J} (none : reached.1.returned = []) :
    Returned reached := by
  simp [Returned, none]

section Marks

variable (row : OutboxMessageRecord J)

theorem entry_published (publishedAt : DateTime) :
    readings.entry { row with
      status := .published, leaseUntil := none, publishedAt := some publishedAt
      updatedAt := publishedAt } =
      (readings.entry row).finish publishedAt.instant := by
  simp [readings, OutboxMessageRecord.reading, OutboxMessageRecord.entry, Entry.finish,
    OutboxMessageRecord.content, OutboxMessageRecord.key, OutboxStatus.phase]

theorem entry_retried (error : String) (availableAt updatedAt : DateTime) :
    readings.entry { row with
      status := .pending, attempts := row.attempts + 1, availableAt, leaseUntil := none
      lastError := some error, updatedAt } =
      (readings.entry row).retry error availableAt.instant updatedAt.instant := by
  simp [readings, OutboxMessageRecord.reading, OutboxMessageRecord.entry, Entry.retry,
    OutboxMessageRecord.content, OutboxMessageRecord.key, OutboxStatus.phase]

theorem entry_failed (error : String) (updatedAt : DateTime) :
    readings.entry { row with
      status := .failed, attempts := row.attempts + 1, leaseUntil := none
      lastError := some error, updatedAt } =
      (readings.entry row).fail error updatedAt.instant := by
  simp [readings, OutboxMessageRecord.reading, OutboxMessageRecord.entry, Entry.fail,
    OutboxMessageRecord.content, OutboxMessageRecord.key, OutboxStatus.phase]

end Marks

/-- A mark is the same settling on either dialect. -/
theorem map_markPublished (dialect : Dialect) (id : UUID) (publishedAt : DateTime)
    (table : Table J) :
    (markPublished dialect id publishedAt table).map readings.entry =
      updateWhere (fun entry => decide (entry.card.id = id))
        (Entry.finish publishedAt.instant) (table.map readings.entry) := by
  rw [← Dialect.instant_bound dialect publishedAt]
  exact readings.map_updateById (fun row => entry_published row _) table

theorem map_markRetry (dialect : Dialect) (now : DateTime) (id : UUID) (error : String)
    (availableAt : DateTime) (table : Table J) :
    (markRetry dialect now id error availableAt table).map readings.entry =
      updateWhere (fun entry => decide (entry.card.id = id))
        (Entry.retry error availableAt.instant now.instant) (table.map readings.entry) := by
  rw [← Dialect.instant_bound dialect availableAt, ← Dialect.instant_bound dialect now]
  exact readings.map_updateById (fun row => entry_retried row error _ _) table

theorem map_markFailed (dialect : Dialect) (now : DateTime) (id : UUID) (error : String)
    (table : Table J) :
    (markFailed dialect now id error table).map readings.entry =
      updateWhere (fun entry => decide (entry.card.id = id))
        (Entry.fail error now.instant) (table.map readings.entry) := by
  rw [← Dialect.instant_bound dialect now]
  exact readings.map_updateById (fun row => entry_failed row error _) table

/-! ## One call -/

/-- The record that `append` creates. -/
def Arrival.record (arrival : Arrival J) : OutboxMessageRecord J :=
  .ofEnvelope arrival.envelope arrival.config.retryPolicy arrival.id (.utc arrival.time)

/-- No column is too narrow for texts that fit. -/
theorem overlongColumn_record {arrival : Arrival J}
    (short : ∀ text ∈ (Operation.append arrival).texts, text.length ≤ 255)
    (room : ∀ text ∈ (Operation.append arrival).bodies, TextType.text.Holds text)
    (dialect : Dialect) :
    overlongColumn (textColumns (recordValues arrival.record dialect)) = none := by
  simp only [Operation.texts, List.forall_mem_cons, List.forall_mem_append, Option.mem_toList]
    at short
  obtain ⟨messageId, eventType, orderingKey, correlationId⟩ := short
  simp only [Operation.bodies, Option.mem_toList] at room
  rw [overlongColumn, Option.map_eq_none_iff, List.find?_eq_none]
  simp only [textColumns, recordValues, Arrival.record, OutboxMessageRecord.ofEnvelope,
    List.forall_mem_cons, Option.any_eq_true, Bool.not_eq_true', decide_eq_false_iff_not,
    not_exists, not_and, not_not]
  refine ⟨?_, ?_, room, orderingKey, correlationId, by simp⟩
  · rintro text ⟨⟩
    exact messageId
  · rintro text ⟨⟩
    exact eventType

/-- What `INSERT` checks when every column is wide enough. -/
theorem insert_wide {dialect : Dialect} {values : OutboxMessageRecord J}
    (wide : overlongColumn (textColumns values) = none) (table : Table J) :
    insert dialect values table =
      if values.id ∈ table.map (·.id) then .error (.integrity "outbox_message_pkey")
      else if values.messageId ∈ table.map (·.messageId) then
        .error (.integrity "outbox_message_message_id_key")
      else .ok (table ++ [values]) := by
  have ids : (table.any fun row => decide (row.id = values.id)) = true ↔
      values.id ∈ table.map (·.id) := by simp
  have messages : (table.any fun row => decide (row.messageId = values.messageId)) = true ↔
      values.messageId ∈ table.map (·.messageId) := by simp
  unfold insert
  simp only [wide, ite_self, ids, messages]

/-- The record that `append` returns. -/
def Arrival.returned (arrival : Arrival J) : Dialect → OutboxMessageRecord J
  | .mysql => arrival.record
  | .postgresql => mapRecord (recordValues arrival.record .postgresql)

theorem reading_returned (arrival : Arrival J) (dialect : Dialect) :
    (arrival.returned dialect).reading = arrival.record.reading := by
  cases dialect <;> simp [Arrival.returned]

theorem perform_append (dialect : Dialect) {arrival : Arrival J}
    (short : ∀ text ∈ (Operation.append arrival).texts, text.length ≤ 255)
    (room : ∀ text ∈ (Operation.append arrival).bodies, TextType.text.Holds text)
    (choices : Dialect → Choices (OutboxMessageRecord J) UUID) (table : Table J) :
    perform dialect ⟨.append arrival, choices⟩ table =
      if arrival.id ∈ table.map (·.id) then
        (.appended (.error (.integrity "outbox_message_pkey")), table)
      else if arrival.envelope.metadata.messageId ∈ table.map (·.messageId) then
        (.appended (.error (.integrity "outbox_message_message_id_key")), table)
      else
        (.appended (.ok (arrival.returned dialect)),
          table ++ [recordValues arrival.record dialect]) := by
  have inserted : insert dialect (recordValues arrival.record dialect) table =
      if arrival.id ∈ table.map (·.id) then .error (.integrity "outbox_message_pkey")
      else if arrival.envelope.metadata.messageId ∈ table.map (·.messageId) then
        .error (.integrity "outbox_message_message_id_key")
      else .ok (table ++ [recordValues arrival.record dialect]) :=
    insert_wide (overlongColumn_record short room dialect) table
  have appended : append arrival.config dialect arrival.id (.utc arrival.time) arrival.envelope
      table = (insert dialect (recordValues arrival.record dialect) table).map
        fun after => (after, arrival.returned dialect) := by
    simp only [append, OutboxMessageRecord.pending, MessageEnvelope.make_parts,
      boundValues_recordValues, bind, Except.bind, pure, Except.pure, Arrival.record]
    cases insert dialect _ table <;> cases dialect <;> rfl
  simp only [perform, appended, inserted]
  split_ifs <;> rfl

theorem asStr_eq_iff (left right : OutboxStatus) :
    left.asStr = right.asStr ↔ left.phase = right.phase := by
  cases left <;> cases right <;> decide

/-- Tables with the same readings list the same rows, oldest first. -/
theorem map_listByStatus {choices : Choices (OutboxMessageRecord J) UUID} {table : Table J}
    (untied : (table.map (·.createdAt.instant)).Nodup) (status : OutboxStatus) :
    (listByStatus choices status table).map readings.entry =
      ((table.map readings.entry).filter fun entry =>
          decide (entry.phase = status.phase)).insertionSort
        fun first second => first.card.stamp ≤ second.card.stamp := by
  have listed : ((table.filter fun row => row.status.asStr = status.asStr).map
      fun row => row.createdAt.instant).Nodup := untied.sublist (List.filter_sublist.map _)
  have mapped : readings.entry ∘ mapRecord = (readings (J := J)).entry := by
    funext row
    exact readings.entry_mapRecord row
  unfold listByStatus
  rw [insertionSort_eq_of_perm (choices.scan_perm _) listed, List.map_map, mapped]
  apply map_insertionSort_filter
  · intro row
    exact decide_eq_decide.mpr (asStr_eq_iff row.status status)
  · intro row
    exact (readings.stamp_entry row).symm

/-- Appending keeps tables alike, whether it succeeds or not. -/
theorem Alike.append {arrival : Arrival J}
    {choices : Dialect → Choices (OutboxMessageRecord J) UUID}
    {statements : List (Statement J)} {left right : Table J}
    (alike : Alike (⟨.append arrival, choices⟩ :: statements) left right)
    (leftDialect rightDialect : Dialect) :
    Agree (Outbox.perform leftDialect ⟨.append arrival, choices⟩ left)
        (Outbox.perform rightDialect ⟨.append arrival, choices⟩ right) ∧
      Alike statements (Outbox.perform leftDialect ⟨.append arrival, choices⟩ left).2
        (Outbox.perform rightDialect ⟨.append arrival, choices⟩ right).2 := by
  obtain ⟨⟨_, short, _⟩, room⟩ := alike.admissible _ List.mem_cons_self
  have ids : left.map (·.id) = right.map (·.id) := readings.ids_eq alike.same
  have messages := congrArg (List.map fun entry => entry.card.body.messageId) alike.same
  simp only [List.map_map] at messages
  have messages : left.map (·.messageId) = right.map (·.messageId) := messages
  have untied : (left.map (·.createdAt.instant) ++
      statements.filterMap (·.operation.createdAt)).Nodup := by
    refine alike.untied.sublist ((List.sublist_cons_self arrival.time _).append_left _)
  have later := fun other membership => alike.admissible other (List.mem_cons_of_mem _ membership)
  rw [perform_append leftDialect short room, perform_append rightDialect short room,
    ids, messages]
  split_ifs with taken known
  · exact ⟨agree_of_same trivial alike.same (returned_none rfl) (returned_none rfl),
      alike.same, alike.distinct, untied, later⟩
  · exact ⟨agree_of_same trivial alike.same (returned_none rfl) (returned_none rfl),
      alike.same, alike.distinct, untied, later⟩
  · have same : (left ++ [recordValues arrival.record leftDialect]).map readings.entry =
        (right ++ [recordValues arrival.record rightDialect]).map readings.entry := by
      rw [List.map_append, List.map_append, alike.same]
      simp [readings]
    refine ⟨agree_of_same ?_ same ?_ ?_, same, ?_, ?_, later⟩
    · simp only [Answer.Agree, reading_returned]
    · intro record returned
      obtain rfl := List.mem_singleton.mp returned
      exact ⟨recordValues arrival.record leftDialect, by simp, by
        simp [reading_returned]⟩
    · intro record returned
      obtain rfl := List.mem_singleton.mp returned
      exact ⟨recordValues arrival.record rightDialect, by simp, by
        simp [reading_returned]⟩
    · rw [List.map_append]
      refine alike.distinct.append (List.nodup_singleton _) (List.disjoint_singleton.mpr ?_)
      rw [ids]
      exact taken
    · have created : (recordValues arrival.record leftDialect).createdAt.instant =
          arrival.time := by
        simp [recordValues, Arrival.record, OutboxMessageRecord.ofEnvelope]
      rw [List.map_append, List.map_singleton, created, List.append_assoc]
      exact alike.untied

/-- One call on two dialects is answered alike and keeps the tables alike. -/
theorem Alike.perform {statement : Statement J}
    {statements : List (Statement J)} {left right : Table J}
    (alike : Alike (statement :: statements) left right) (leftDialect rightDialect : Dialect) :
    Agree (perform leftDialect statement left)
        (perform rightDialect statement right) ∧
      Alike statements (Outbox.perform leftDialect statement left).2
        (Outbox.perform rightDialect statement right).2 := by
  have unlocked := alike.unlocked
  have room := (alike.admissible statement List.mem_cons_self).room
  obtain ⟨operation, choices⟩ := statement
  cases operation with
  | append arrival => exact alike.append leftDialect rightDialect
  | reclaimExpired now =>
      obtain ⟨same, counted⟩ :=
        readings.reclaimExpired_congr alike.same leftDialect rightDialect now
      exact ⟨agree_of_same counted same (returned_none rfl) (returned_none rfl),
        alike.next rfl _ _ same⟩
  | claimReady config now =>
      obtain ⟨same, claimed⟩ := readings.claimReady_congr alike.same alike.distinct
        alike.untied_rows leftDialect rightDialect (unlocked leftDialect)
        (unlocked rightDialect) .fifo config.outboxBatchSize config.leaseDuration now
      refine ⟨agree_of_same (perm_readings claimed) same ?_ ?_, alike.next rfl _ _ same⟩
      · intro record returned
        exact stored_of_mem (readings.mem_of_claimed _ _ _ _ _ _ alike.distinct returned)
      · intro record returned
        have distinct : (right.map (·.id)).Nodup := readings.ids_eq alike.same ▸ alike.distinct
        exact stored_of_mem (readings.mem_of_claimed _ _ _ _ _ _ distinct returned)
  | markPublished id publishedAt =>
      have same : (markPublished leftDialect id publishedAt left).map readings.entry =
          (markPublished rightDialect id publishedAt right).map readings.entry := by
        rw [map_markPublished, map_markPublished, alike.same]
      exact ⟨agree_of_same trivial same (returned_none rfl) (returned_none rfl),
        alike.next rfl _ _ same⟩
  | markRetry time id error availableAt =>
      have same : (markRetry leftDialect (.utc time) id error availableAt left).map
          readings.entry =
            (markRetry rightDialect (.utc time) id error availableAt right).map
              readings.entry := by
        rw [map_markRetry, map_markRetry, alike.same]
      have next : _ → Alike statements (Outbox.perform leftDialect _ left).2
          (Outbox.perform rightDialect _ right).2 := alike.next rfl leftDialect rightDialect
      simp only [Outbox.perform,
        columns.markOrRefuse_holds (room error (List.mem_singleton.mpr rfl))] at next ⊢
      exact ⟨agree_of_same trivial same (returned_none rfl) (returned_none rfl), next same⟩
  | markFailed time id error =>
      have same : (markFailed leftDialect (.utc time) id error left).map readings.entry =
          (markFailed rightDialect (.utc time) id error right).map readings.entry := by
        rw [map_markFailed, map_markFailed, alike.same]
      have next : _ → Alike statements (Outbox.perform leftDialect _ left).2
          (Outbox.perform rightDialect _ right).2 := alike.next rfl leftDialect rightDialect
      simp only [Outbox.perform,
        columns.markOrRefuse_holds (room error (List.mem_singleton.mpr rfl))] at next ⊢
      exact ⟨agree_of_same trivial same (returned_none rfl) (returned_none rfl), next same⟩
  | listByStatus status =>
      have untied := alike.untied_rows
      have rightUntied : (right.map (·.createdAt.instant)).Nodup :=
        readings.arrivals_eq alike.same ▸ untied
      have listed : (listByStatus (choices leftDialect) status left).map (·.reading) =
          (listByStatus (choices rightDialect) status right).map (·.reading) := by
        apply readings_eq
        rw [map_listByStatus untied, map_listByStatus rightUntied, alike.same]
      exact ⟨agree_of_same listed alike.same (returned_none rfl) (returned_none rfl),
        alike.next rfl _ _ alike.same⟩

end Pactix.Outbox
