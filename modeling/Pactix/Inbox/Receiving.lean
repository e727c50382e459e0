import Pactix.Foundation.Trace
import Pactix.Inbox.Service

/-!
# Receiving on both dialects

PostgreSQL and MySQL receive by different statements into columns of different types.
Two tables that hold the same messages are followed here through one call.
-/

namespace Pactix.Inbox

open Foundation Worker

variable {W J : Type}

/-! ## Messages -/

/-- What makes two calls receive the same message. -/
def Arrival.message (arrival : Arrival J) : String × String :=
  (arrival.source, arrival.envelope.metadata.messageId)

def InboxMessageRecord.message (row : InboxMessageRecord J) : String × String :=
  (row.source, row.messageId)

/-- The fixed columns of the row that a call inserts: the fields of its envelope. -/
def Arrival.content (arrival : Arrival J) : Content J where
  id := arrival.id
  source := arrival.source
  messageId := arrival.envelope.metadata.messageId
  eventType := arrival.envelope.metadata.eventType
  messageKey := arrival.envelope.metadata.messageKey
  orderingKey := arrival.envelope.metadata.orderingKey
  correlationId := arrival.envelope.metadata.correlationId
  payload := arrival.envelope.payload
  headers := arrival.envelope.metadata.headers.sorted
  maxAttempts := arrival.config.retryPolicy.maxAttempts
  receivedAt := .utc arrival.time

theorem sameMessage_eq_true {source messageId : String} {row : InboxMessageRecord J} :
    sameMessage source messageId row = true ↔ row.message = (source, messageId) := by
  simp [sameMessage, InboxMessageRecord.message]

/-- A committed call finds the row of its message or adds it. -/
theorem receive_eq_ok {deployment : Deployment W} (postgresql : deployment.dialect = .postgresql)
    {arrival : Arrival J} {table after : Table J} {outcome : ReceiveOutcome J}
    (saved : (store deployment).receive arrival table = .ok (after, outcome)) :
    isBlank arrival.source = false ∧
      ((outcome.inserted = false ∧ after = table ∧
          arrival.message ∈ table.map InboxMessageRecord.message) ∨
        (outcome.inserted = true ∧ arrival.message ∉ table.map InboxMessageRecord.message ∧
          ∃ row, after = table ++ [row] ∧ row.content = arrival.content)) := by
  simp only [store, postgresql] at saved
  obtain ⟨notBlank, row, upserted, _⟩ := saveReceived_postgresql saved
  refine ⟨notBlank, ?_⟩
  rcases upsert_eq_ok upserted with ⟨found, same, membership, sameRow⟩ |
    ⟨added, appended, rfl, _, unknown⟩
  · refine .inl ⟨found, same, List.mem_map.mpr ⟨row, membership, ?_⟩⟩
    exact sameMessage_eq_true.mp sameRow
  · refine .inr ⟨added, ?_, _, appended, rfl⟩
    rw [List.mem_map]
    rintro ⟨stored, storedMem, same⟩
    have isSame := sameMessage_eq_true.mpr same
    exact absurd ((unknown stored storedMem).symm.trans isSame) (by simp)

/-! ## Stored fields -/

/-- What a receipt stores of a message.  Headers are a mapping, so their order does not
count. -/
structure Received (J : Type) where
  source : String
  messageId : String
  eventType : String
  orderingKey : Option String
  correlationId : Option String
  payload : J
  headers : Headers
  deriving DecidableEq

def InboxMessageRecord.received (row : InboxMessageRecord J) : Received J where
  source := row.source
  messageId := row.messageId
  eventType := row.eventType
  orderingKey := row.orderingKey
  correlationId := row.correlationId
  payload := row.payload
  headers := row.headers.sorted

/-- The fields that a call stores. -/
def Arrival.received (arrival : Arrival J) : Received J where
  source := arrival.source
  messageId := arrival.envelope.metadata.messageId
  eventType := arrival.envelope.metadata.eventType
  orderingKey := arrival.envelope.metadata.orderingKey
  correlationId := arrival.envelope.metadata.correlationId
  payload := arrival.envelope.payload
  headers := arrival.envelope.metadata.headers.sorted

/-- The value fits a `VARCHAR(255)` column. -/
def Short (value : String) : Prop := value.length ≤ 255

instance (value : String) : Decidable (Short value) := inferInstanceAs (Decidable (_ ≤ _))

/-- Every indexed text of the message fits its MySQL column. -/
structure Received.Fits (message : Received J) : Prop where
  source : Short message.source
  messageId : Short message.messageId
  eventType : Short message.eventType
  orderingKey : ∀ key ∈ message.orderingKey, Short key
  correlationId : ∀ correlation ∈ message.correlationId, Short correlation

/-! ## Cut values -/

theorem short_truncate (value : String) : Short (truncate value) := by
  simp only [Short, truncate, String.length_ofList, List.length_take]
  omega

theorem truncate_of_short {value : String} (short : Short value) : truncate value = value := by
  unfold truncate
  rw [List.take_of_length_le short]
  exact String.ofList_toList

theorem fits_truncated (row : InboxMessageRecord J) : (truncated row).received.Fits where
  source := short_truncate _
  messageId := short_truncate _
  eventType := short_truncate _
  orderingKey key keyed := by
    obtain ⟨value, _, rfl⟩ := Option.map_eq_some_iff.mp keyed
    exact short_truncate value
  correlationId correlation correlated := by
    obtain ⟨value, _, rfl⟩ := Option.map_eq_some_iff.mp correlated
    exact short_truncate value

theorem map_id_of_forall {cut : String → String} {value : Option String}
    (kept : ∀ text ∈ value, cut text = text) : value.map cut = value := by
  cases value with
  | none => rfl
  | some text => rw [Option.map_some, kept text rfl]

theorem map_truncate {value : Option String} (short : ∀ text ∈ value, Short text) :
    value.map truncate = value :=
  map_id_of_forall fun text stored => truncate_of_short (short text stored)

/-- MySQL stores the fields of a row that fits as they are. -/
theorem received_truncated {row : InboxMessageRecord J} (fits : row.received.Fits) :
    (truncated row).received = row.received := by
  have source := truncate_of_short fits.source
  have messageId := truncate_of_short fits.messageId
  have eventType := truncate_of_short fits.eventType
  have orderingKey := map_truncate fits.orderingKey
  have correlationId := map_truncate fits.correlationId
  simp only [InboxMessageRecord.received] at source messageId eventType orderingKey correlationId
  simp only [truncated, InboxMessageRecord.received, source, messageId, eventType, orderingKey,
    correlationId]

theorem takeBytes_of_le {chars : List Char} {bytes : Nat} (room : String.utf8Len chars ≤ bytes) :
    takeBytes bytes chars = chars := by
  induction chars generalizing bytes with
  | nil => rfl
  | cons char chars ih =>
      rw [String.utf8Len_cons] at room
      rw [takeBytes, if_pos (by omega), ih (by omega)]

theorem truncateText_of_holds {value : String} (holds : TextType.text.Holds value) :
    truncateText value = value := by
  have room : String.utf8Len value.toList ≤ 65535 := by
    rw [← String.utf8ByteSize_ofList, String.ofList_toList]
    exact holds
  rw [truncateText, takeBytes_of_le room, String.ofList_toList]

/-- MySQL stores a row that fits as it is. -/
theorem truncated_of_fits {row : InboxMessageRecord J} (fits : row.received.Fits)
    (room : ∀ key ∈ row.messageKey, TextType.text.Holds key) : truncated row = row := by
  have messageKey : row.messageKey.map truncateText = row.messageKey :=
    map_id_of_forall fun key keyed => truncateText_of_holds (room key keyed)
  have kept := received_truncated fits
  simp only [truncated, InboxMessageRecord.received, Received.mk.injEq, and_true] at kept
  obtain ⟨source, messageId, eventType, orderingKey, correlationId⟩ := kept
  simp only [truncated, source, messageId, eventType, messageKey, orderingKey, correlationId]

/-- Every text of the call fits its MySQL column. -/
structure Arrival.Fits (arrival : Arrival J) : Prop where
  received : arrival.received.Fits
  messageKey : ∀ key ∈ arrival.envelope.metadata.messageKey, TextType.text.Holds key

/-! ## One call -/

/-- The record that a call creates. -/
def Arrival.record (arrival : Arrival J) : InboxMessageRecord J :=
  .ofEnvelope arrival.source arrival.envelope arrival.config.retryPolicy arrival.id
    (.utc arrival.time)

/-- A call in a transaction of its own, which an error rolls back. -/
def receive (dialect : Dialect) (arrival : Arrival J) (table : Table J) :
    Except Error (ReceiveOutcome J) × Table J :=
  match saveReceived arrival.config dialect arrival.id (.utc arrival.time) arrival.source
      arrival.envelope table with
  | .ok (table, outcome) => (.ok outcome, table)
  | .error error => (.error error, table)

theorem saveReceived_of_receive {dialect : Dialect} {arrival : Arrival J}
    {table after : Table J} {outcome : ReceiveOutcome J}
    (received : receive dialect arrival table = (.ok outcome, after)) :
    saveReceived arrival.config dialect arrival.id (.utc arrival.time) arrival.source
      arrival.envelope table = .ok (after, outcome) := by
  unfold receive at received
  split at received
  next saved =>
    simp only [Prod.mk.injEq, Except.ok.injEq] at received
    rw [saved, received.1, received.2]
  next => simp at received

/-- The inserted flag of an answer; a call that raised has none. -/
def inserted (answer : Except Error (ReceiveOutcome J)) : Option Bool :=
  answer.toOption.map ReceiveOutcome.inserted

theorem receive_blank (dialect : Dialect) {arrival : Arrival J}
    (blank : isBlank arrival.source = true) (table : Table J) :
    receive dialect arrival table =
      (.error (.validation "source must not be empty"), table) := by
  simp [receive, saveReceived, InboxMessageRecord.pending, blank, bind, Except.bind, throw,
    throwThe, MonadExceptOf.throw]

theorem received_recordValues (record : InboxMessageRecord J) (dialect : Dialect) :
    (recordValues record dialect).received = record.received := by
  simp [InboxMessageRecord.received, recordValues]

theorem received_mapRecord (row : InboxMessageRecord J) :
    (mapRecord row).received = row.received := rfl

theorem find_unknown {source messageId : String} {table : Table J}
    (unknown : (source, messageId) ∉ table.map InboxMessageRecord.message) :
    table.find? (sameMessage source messageId) = none := by
  rw [List.find?_eq_none]
  intro row stored same
  exact unknown (List.mem_map.mpr ⟨row, stored, sameMessage_eq_true.mp same⟩)

/-- The upsert of a new message adds it unless its id is taken. -/
theorem upsert_unknown (values : InboxMessageRecord J) {table : Table J}
    (unknown : values.message ∉ table.map InboxMessageRecord.message) :
    upsert values table =
      if values.id ∈ table.map InboxMessageRecord.id then
        .error (.integrity "inbox_message_pkey")
      else
        .ok (table ++ [values], values, true) := by
  have taken : (table.any fun row => decide (row.id = values.id)) = true ↔
      values.id ∈ table.map InboxMessageRecord.id := by simp
  simp only [upsert, find_unknown unknown, taken]

section Statements

variable {arrival : Arrival J} {table : Table J}
variable (notBlank : isBlank arrival.source = false)

include notBlank

theorem receive_postgresql :
    receive .postgresql arrival table =
      match upsert (recordValues arrival.record .postgresql) table with
      | .ok (table, row, inserted) => (.ok ⟨mapRecord row, inserted⟩, table)
      | .error error => (.error error, table) := by
  simp only [receive, saveReceived, InboxMessageRecord.pending, notBlank, Arrival.record,
    MessageEnvelope.make_parts, boundValues_recordValues, bind, Except.bind, pure, Except.pure,
    Bool.false_eq_true, if_false]
  cases upsert (recordValues (.ofEnvelope arrival.source arrival.envelope
    arrival.config.retryPolicy arrival.id (.utc arrival.time)) .postgresql) table <;> rfl

theorem receive_mysql :
    receive .mysql arrival table =
      match saveReceivedMysql arrival.record
        (recordValues arrival.record .mysql) table with
      | .ok (table, outcome) => (.ok outcome, table)
      | .error error => (.error error, table) := by
  simp only [receive, saveReceived, InboxMessageRecord.pending, notBlank, Arrival.record,
    MessageEnvelope.make_parts, boundValues_recordValues, bind, Except.bind, pure, Except.pure,
    Bool.false_eq_true, if_false]

/-- On PostgreSQL a call whose message is stored finds a row of the message. -/
theorem receive_postgresql_known (known : arrival.message ∈ table.map InboxMessageRecord.message) :
    ∃ row ∈ table, receive .postgresql arrival table =
      (.ok ⟨mapRecord row, false⟩, table) := by
  cases found : table.find? (sameMessage arrival.source arrival.envelope.metadata.messageId) with
  | none =>
      obtain ⟨row, stored, same⟩ := List.mem_map.mp known
      exact absurd (sameMessage_eq_true.mpr same) (List.find?_eq_none.mp found row stored)
  | some row =>
      refine ⟨row, List.mem_of_find?_eq_some found, ?_⟩
      rw [receive, saveReceived_duplicate _ _ _ _ notBlank found]

theorem receive_postgresql_unknown
    (unknown : arrival.message ∉ table.map InboxMessageRecord.message) :
    receive .postgresql arrival table =
      if arrival.id ∈ table.map InboxMessageRecord.id then
        (.error (.integrity "inbox_message_pkey"), table)
      else
        (.ok ⟨mapRecord (recordValues arrival.record .postgresql), true⟩,
          table ++ [recordValues arrival.record .postgresql]) := by
  have upserted := upsert_unknown (recordValues arrival.record .postgresql) unknown
  rw [receive_postgresql notBlank, upserted]
  by_cases taken : arrival.id ∈ table.map InboxMessageRecord.id
  · rw [if_pos taken, if_pos (show (recordValues arrival.record _).id ∈ _ from taken)]
  · rw [if_neg taken, if_neg (show (recordValues arrival.record _).id ∉ _ from taken)]

/-- On MySQL a skipped insert reads the message back. -/
theorem receive_mysql_skipped
    (skipped : (insertIgnore (recordValues arrival.record .mysql) table) = (table, 0)) :
    receive .mysql arrival table =
      match table.find? (sameMessage arrival.source arrival.envelope.metadata.messageId) with
      | some row => (.ok ⟨mapRecord row, false⟩, table)
      | none => (.error .noResult, table) := by
  rw [receive_mysql notBlank]
  have source : arrival.record.source = arrival.source := rfl
  have messageId : arrival.record.messageId = arrival.envelope.metadata.messageId := rfl
  simp only [saveReceivedMysql, skipped, Nat.zero_ne_one, if_false, source, messageId]
  cases table.find? (sameMessage arrival.source arrival.envelope.metadata.messageId) <;> rfl

theorem receive_mysql_inserted
    (added : (insertIgnore (recordValues arrival.record .mysql) table).2 = 1) :
    receive .mysql arrival table =
      (.ok ⟨arrival.record, true⟩,
        (insertIgnore (recordValues arrival.record .mysql) table).1) := by
  rw [receive_mysql notBlank]
  simp only [saveReceivedMysql, added, if_true]

end Statements

/-- `INSERT IGNORE` looks for the id and for the cut source and message id. -/
theorem insertIgnore_conflict (values : InboxMessageRecord J) (table : Table J) :
    insertIgnore values table =
      if values.id ∈ table.map InboxMessageRecord.id ∨
          (truncated values).message ∈ table.map InboxMessageRecord.message then
        (table, 0)
      else
        (table ++ [truncated values], 1) := by
  have conflict : (table.any fun row => decide (row.id = (truncated values).id) ||
      sameMessage (truncated values).source (truncated values).messageId row) = true ↔
        values.id ∈ table.map InboxMessageRecord.id ∨
          (truncated values).message ∈ table.map InboxMessageRecord.message := by
    simp only [List.any_eq_true, Bool.or_eq_true, decide_eq_true_eq, sameMessage_eq_true,
      List.mem_map, and_or_left, exists_or]
    rfl
  unfold insertIgnore
  simp only [conflict]

/-- The source and message id of a call are stored uncut. -/
def Arrival.Uncut (dialect : Dialect) (arrival : Arrival J) : Prop :=
  dialect = .mysql → Short arrival.source ∧ Short arrival.envelope.metadata.messageId

/-- A committed call leaves the table alone, as its message is there, or adds a row of a
message that is not: of its own message, unless that is cut. -/
theorem receive_adds {deployment : Deployment W} {arrival : Arrival J} {table after : Table J}
    {outcome : ReceiveOutcome J}
    (saved : (store deployment).receive arrival table = .ok (after, outcome)) :
    (after = table ∧ arrival.message ∈ table.map InboxMessageRecord.message) ∨
      ∃ row, after = table ++ [row] ∧ row.message ∉ table.map InboxMessageRecord.message ∧
        (arrival.Uncut deployment.dialect → row.message = arrival.message) := by
  cases dialect : deployment.dialect with
  | postgresql =>
      obtain ⟨_, ⟨_, same, known⟩ | ⟨_, unknown, row, added, content⟩⟩ :=
        receive_eq_ok dialect saved
      · exact .inl ⟨same, known⟩
      · have message : row.message = arrival.message :=
          congrArg (fun content => (content.source, content.messageId)) content
        exact .inr ⟨row, added, message ▸ unknown, fun _ => message⟩
  | mysql =>
      simp only [store, dialect] at saved
      have received : receive .mysql arrival table = (.ok outcome, after) := by
        rw [receive, saved]
      have notBlank : isBlank arrival.source = false := by
        cases blank : isBlank arrival.source with
        | false => rfl
        | true =>
            rw [receive_blank _ blank] at received
            simp at received
      let values := recordValues arrival.record .mysql
      by_cases conflict : values.id ∈ table.map InboxMessageRecord.id ∨
          (truncated values).message ∈ table.map InboxMessageRecord.message
      · have skipped : insertIgnore values table = (table, 0) := by
          rw [insertIgnore_conflict, if_pos conflict]
        rw [receive_mysql_skipped notBlank skipped] at received
        split at received
        next row found =>
          obtain ⟨_, rfl⟩ := Prod.mk.inj received
          refine .inl ⟨rfl, List.mem_map.mpr ⟨row, List.mem_of_find?_eq_some found, ?_⟩⟩
          exact sameMessage_eq_true.mp (List.find?_some found)
        next => simp at received
      · have added : insertIgnore values table = (table ++ [truncated values], 1) := by
          rw [insertIgnore_conflict, if_neg conflict]
        rw [receive_mysql_inserted notBlank (by rw [added]), added] at received
        obtain ⟨_, rfl⟩ := Prod.mk.inj received
        refine .inr ⟨_, rfl, fun known => conflict (.inr known), fun uncut => ?_⟩
        obtain ⟨source, messageId⟩ := uncut rfl
        exact Prod.ext (truncate_of_short source) (truncate_of_short messageId)

/-! ## Agreement -/

/-- The call stores a message: its source is not blank, and its message and id are none
of the earlier ones. -/
def admits (earlier : List (Arrival J)) (arrival : Arrival J) : Bool :=
  !isBlank arrival.source &&
    decide (arrival.message ∉ earlier.map Arrival.message ∧ arrival.id ∉ earlier.map Arrival.id)

/-- The calls that store a message, after the given ones have. -/
def admitted : List (Arrival J) → List (Arrival J) → List (Arrival J)
  | _, [] => []
  | earlier, arrival :: arrivals =>
      if admits earlier arrival then
        arrival :: admitted (earlier ++ [arrival]) arrivals
      else
        admitted earlier arrivals

/-- A returned record agrees with the stored row of its id. -/
def Returned (reached : Except Error (ReceiveOutcome J) × Table J) : Prop :=
  ∀ outcome, reached.1 = .ok outcome → ∃ row ∈ reached.2,
    row.id = outcome.record.id ∧ row.received = outcome.record.received

/-- The two dialects have answered one call alike. -/
structure Agree (postgresql mysql : Except Error (ReceiveOutcome J) × Table J) : Prop where
  inserted : inserted postgresql.1 = inserted mysql.1
  stored : (postgresql.2.map (·.received)).Perm (mysql.2.map (·.received))
  returned_postgresql : Returned postgresql
  returned_mysql : Returned mysql

/-- Both tables hold the messages of the same calls, and the rows of MySQL fit. -/
structure Alike (earlier : List (Arrival J)) (postgresql mysql : Table J) : Prop where
  ids_postgresql : postgresql.map (·.id) = earlier.map (·.id)
  ids_mysql : mysql.map (·.id) = earlier.map (·.id)
  received_postgresql : postgresql.map (·.received) = earlier.map (·.received)
  received_mysql : mysql.map (·.received) = earlier.map (·.received)
  fits : ∀ row ∈ mysql, row.received.Fits

theorem messages_eq {earlier : List (Arrival J)} {table : Table J}
    (received : table.map (·.received) = earlier.map (·.received)) :
    table.map (·.message) = earlier.map (·.message) := by
  have messages := congrArg
    (List.map fun message : Received J => (message.source, message.messageId)) received
  rw [List.map_map, List.map_map] at messages
  exact messages

theorem returned_error (error : Error) (table : Table J) : Returned (.error error, table) := by
  simp [Returned]

theorem returned_row {row : InboxMessageRecord J} {table : Table J} (stored : row ∈ table)
    (inserted : Bool) : Returned (.ok ⟨mapRecord row, inserted⟩, table) := by
  intro outcome returned
  obtain rfl := Except.ok.inj returned
  exact ⟨row, stored, rfl, (received_mapRecord row).symm⟩

namespace Alike

variable {earlier : List (Arrival J)} {arrival : Arrival J}
variable {postgresql mysql : Table J}

/-- A known message is found again by both. -/
theorem receive_known (alike : Alike earlier postgresql mysql)
    (notBlank : isBlank arrival.source = false)
    (known : arrival.message ∈ earlier.map Arrival.message) :
    (∃ row ∈ postgresql, receive .postgresql arrival postgresql =
      (.ok ⟨mapRecord row, false⟩, postgresql)) ∧
    ∃ row ∈ mysql, receive .mysql arrival mysql = (.ok ⟨mapRecord row, false⟩, mysql) := by
  constructor
  · apply receive_postgresql_known notBlank
    exact (messages_eq alike.received_postgresql) ▸ known
  · have stored : arrival.message ∈ mysql.map InboxMessageRecord.message :=
      (messages_eq alike.received_mysql) ▸ known
    obtain ⟨row, rowMem, same⟩ := List.mem_map.mp stored
    -- The stored row fits, so the values of this call are not cut either.
    have sameSource : row.source = arrival.source := congrArg Prod.fst same
    have sameId : row.messageId = arrival.envelope.metadata.messageId := congrArg Prod.snd same
    have source : truncate arrival.source = arrival.source :=
      truncate_of_short (sameSource ▸ (alike.fits row rowMem).source)
    have messageId : truncate arrival.envelope.metadata.messageId =
        arrival.envelope.metadata.messageId :=
      truncate_of_short (sameId ▸ (alike.fits row rowMem).messageId)
    have uncut : (truncated (recordValues arrival.record .mysql)).message =
        arrival.message := Prod.ext source messageId
    have skipped : insertIgnore (recordValues arrival.record .mysql) mysql =
        (mysql, 0) := by
      rw [insertIgnore_conflict, if_pos (.inr (uncut ▸ stored))]
    rw [receive_mysql_skipped notBlank skipped]
    cases found : mysql.find?
        (sameMessage arrival.source arrival.envelope.metadata.messageId) with
    | none =>
        exact absurd (sameMessage_eq_true.mpr same) (List.find?_eq_none.mp found row rowMem)
    | some row => exact ⟨row, List.mem_of_find?_eq_some found, rfl⟩

/-- A new message under a taken id is refused by both. -/
theorem receive_taken (alike : Alike earlier postgresql mysql)
    (notBlank : isBlank arrival.source = false)
    (unknown : arrival.message ∉ earlier.map Arrival.message)
    (taken : arrival.id ∈ earlier.map Arrival.id) :
    receive .postgresql arrival postgresql =
        (.error (.integrity "inbox_message_pkey"), postgresql) ∧
      receive .mysql arrival mysql = (.error .noResult, mysql) := by
  constructor
  · rw [receive_postgresql_unknown notBlank, if_pos]
    · exact alike.ids_postgresql ▸ taken
    · exact (messages_eq alike.received_postgresql) ▸ unknown
  · have skipped : insertIgnore (recordValues arrival.record .mysql) mysql =
        (mysql, 0) := by
      rw [insertIgnore_conflict, if_pos (.inl (alike.ids_mysql ▸ taken))]
    have missing : arrival.message ∉ mysql.map InboxMessageRecord.message :=
      (messages_eq alike.received_mysql) ▸ unknown
    rw [receive_mysql_skipped notBlank skipped, find_unknown missing]

/-- An admitted call adds its row on PostgreSQL. -/
theorem receive_postgresql (alike : Alike earlier postgresql mysql)
    (admitted : admits earlier arrival = true) :
    receive .postgresql arrival postgresql =
      (.ok ⟨mapRecord (recordValues arrival.record .postgresql), true⟩,
        postgresql ++ [recordValues arrival.record .postgresql]) := by
  simp only [admits, Bool.and_eq_true, Bool.not_eq_true', decide_eq_true_eq] at admitted
  obtain ⟨notBlank, unknown, free⟩ := admitted
  rw [receive_postgresql_unknown notBlank, if_neg]
  · exact alike.ids_postgresql ▸ free
  · exact (messages_eq alike.received_postgresql) ▸ unknown

/-- An admitted call that fits adds its row on MySQL. -/
theorem receive_mysql (alike : Alike earlier postgresql mysql)
    (admitted : admits earlier arrival = true) (fits : arrival.received.Fits) :
    receive .mysql arrival mysql =
      (.ok ⟨arrival.record, true⟩,
        mysql ++ [truncated (recordValues arrival.record .mysql)]) := by
  simp only [admits, Bool.and_eq_true, Bool.not_eq_true', decide_eq_true_eq] at admitted
  obtain ⟨notBlank, unknown, free⟩ := admitted
  have uncut : (truncated (recordValues arrival.record .mysql)).message =
      arrival.message :=
    Prod.ext (truncate_of_short fits.source) (truncate_of_short fits.messageId)
  have added : insertIgnore (recordValues arrival.record .mysql) mysql =
      (mysql ++ [truncated (recordValues arrival.record .mysql)], 1) := by
    rw [insertIgnore_conflict, if_neg]
    rintro (taken | known)
    · exact free (alike.ids_mysql ▸ taken)
    · exact unknown ((messages_eq alike.received_mysql) ▸ uncut ▸ known)
  rw [receive_mysql_inserted notBlank (by rw [added]), added]

/-- The tables stay alike when an admitted call that fits is stored in both. -/
theorem append (alike : Alike earlier postgresql mysql)
    (fits : arrival.received.Fits) :
    Alike (earlier ++ [arrival])
      (postgresql ++ [recordValues arrival.record .postgresql])
      (mysql ++ [truncated (recordValues arrival.record .mysql)]) := by
  have received : ∀ dialect, (recordValues arrival.record dialect).received =
      arrival.received := fun dialect => received_recordValues _ dialect
  have cut : (truncated (recordValues arrival.record .mysql)).received =
      arrival.received := (received_truncated (received .mysql ▸ fits)).trans (received .mysql)
  refine ⟨?_, ?_, ?_, ?_, ?_⟩
  · simp only [List.map_append, alike.ids_postgresql, List.map_singleton]
    rfl
  · simp only [List.map_append, alike.ids_mysql, List.map_singleton]
    rfl
  · simp only [List.map_append, alike.received_postgresql, List.map_singleton, received]
  · simp only [List.map_append, alike.received_mysql, List.map_singleton, cut]
  · intro row membership
    rcases List.mem_append.mp membership with earlier | new
    · exact alike.fits row earlier
    · rw [List.mem_singleton.mp new, cut]
      exact fits

/-- One call keeps the tables alike and is answered alike, if it fits where it matters. -/
theorem receive (alike : Alike earlier postgresql mysql)
    (arrival : Arrival J) (fits : admits earlier arrival = true → arrival.received.Fits) :
    let left := Inbox.receive .postgresql arrival postgresql
    let right := Inbox.receive .mysql arrival mysql
    Agree left right ∧
      Alike (if admits earlier arrival then earlier ++ [arrival] else earlier) left.2
        right.2 := by
  intro left right
  have sameReceived := List.Perm.of_eq (alike.received_postgresql.trans alike.received_mysql.symm)
  cases blank : isBlank arrival.source with
  | true =>
      have refused : admits earlier arrival = false := by simp [admits, blank]
      simp only [left, right, receive_blank _ blank, refused, Bool.false_eq_true, if_false]
      exact ⟨⟨rfl, sameReceived, returned_error _ _, returned_error _ _⟩, alike⟩
  | false =>
      by_cases known : arrival.message ∈ earlier.map Arrival.message
      · have refused : admits earlier arrival = false := by simp [admits, known]
        obtain ⟨⟨row, stored, found⟩, other, otherStored, otherFound⟩ :=
          alike.receive_known blank known
        simp only [left, right, found, otherFound, refused, Bool.false_eq_true, if_false]
        exact ⟨⟨rfl, sameReceived, returned_row stored _, returned_row otherStored _⟩, alike⟩
      · by_cases taken : arrival.id ∈ earlier.map Arrival.id
        · have refused : admits earlier arrival = false := by simp [admits, taken]
          obtain ⟨raised, otherRaised⟩ := alike.receive_taken blank known taken
          simp only [left, right, raised, otherRaised, refused, Bool.false_eq_true, if_false]
          exact ⟨⟨rfl, sameReceived, returned_error _ _, returned_error _ _⟩, alike⟩
        · have isAdmitted : admits earlier arrival = true := by simp [admits, blank, known, taken]
          have fit := fits isAdmitted
          simp only [left, right, alike.receive_postgresql isAdmitted,
            alike.receive_mysql isAdmitted fit, isAdmitted, if_true]
          have appended := alike.append fit
          refine ⟨⟨rfl, ?_, returned_row (by simp) _, ?_⟩, appended⟩
          · exact .of_eq (appended.received_postgresql.trans appended.received_mysql.symm)
          · intro outcome returned
            obtain rfl := Except.ok.inj returned
            refine ⟨truncated (recordValues arrival.record .mysql), by simp, rfl, ?_⟩
            have stored := received_recordValues arrival.record .mysql
            exact (received_truncated (stored ▸ fit)).trans stored

end Alike

end Pactix.Inbox
