import Pactix.Guarantees.Consumption
import Pactix.Transport.Group

/-!
# Receipt by a consumer group

However partitions change hands, a committed position leaves nothing behind, even where a
member that has lost its partition goes on to save and commit.
-/

namespace Pactix.Transport.KafkaGroup

open Foundation
open Worker (Deployment)

variable {M W J : Type}

/-- MySQL stores the source and the message id of the record as they are. -/
def Uncut (group : KafkaGroup M J) (dialect : Dialect) (record : ConsumerRecord) : Prop :=
  dialect = .mysql → Inbox.Short group.source ∧
    ∀ envelope, group.normalize record = .ok envelope → Inbox.Short envelope.metadata.messageId

/-- The row is what the inbox stores of some record of the group. -/
def Consumed (group : KafkaGroup M J) (deployment : Deployment W) (log : List ConsumerRecord)
    (row : Inbox.InboxMessageRecord J) : Prop :=
  ∃ record ∈ log, ∃ arrival : Inbox.Arrival J, arrival.source = group.source ∧
    group.normalize record = .ok arrival.envelope ∧
      row.content = (arrival.row deployment).content

/-- Nothing is lost, and nothing is stored twice. -/
structure ReceivedOnce [DecidableEq M] [DecidableEq W] (group : KafkaGroup M J)
    (deployment : Deployment W) (mode : W → Inbox.Mode) (state : State M W J) : Prop where
  /-- Every record below the committed position of its partition is in the inbox. -/
  committed : ∀ record ∈ state.log, record.offset < state.committed record.place →
    group.Stored state.inbox.table record
  /-- So is every record that a member has gone past, and every record that it may commit. -/
  passed : ∀ record ∈ state.log, ∀ name : M, ((state.member name).saved = some record ∨
    ∃ position ∈ (state.member name).position record.place, record.offset < position) →
      group.Stored state.inbox.table record
  /-- Each source and message id has one row. -/
  one_row : ∀ row ∈ state.inbox.table,
    (state.inbox.table.map (·.message)).count row.message = 1
  /-- A call of a member changes no column of any row. -/
  rows_kept : ∀ name place id time after,
    step group deployment mode state (.save name place id time) = some after →
      ∀ row ∈ state.inbox.table, row ∈ after.inbox.table

/-- What the group, its members and their commits have passed is stored. -/
structure Ahead (group : KafkaGroup M J) (state : State M W J) : Prop where
  ordered : Ordered state.log
  committed : ∀ place, group.Passed state.inbox.table state.log place (state.committed place)
  position : ∀ name place position, (state.member name).position place = some position →
    group.Passed state.inbox.table state.log place position
  saved : ∀ name record, (state.member name).saved = some record → record ∈ state.log ∧
    group.Passed state.inbox.table state.log record.place (record.offset + 1)

section Steps

variable [DecidableEq M] [DecidableEq W] {group : KafkaGroup M J} {deployment : Deployment W}
variable {mode : W → Inbox.Mode} {clock : Int} {state after : State M W J}

/-- What the inbox goes through is a run of the inbox. -/
theorem inbox_path {permitted : State M W J → Label M W J → Prop}
    (path : (machine group deployment mode).Path permitted (.initial clock) state) :
    Inbox.Reaches deployment mode clock state.inbox := by
  apply Machine.path_project State.inbox _ path
  intro before label after _ stepped
  cases stepped_of_step stepped with
  | inbox inboxLabel inbox went => exact Machine.path_single inboxLabel trivial went
  | save name place position record envelope arrival table outcome reads fetched normalized source
      carried received =>
      refine Machine.path_single (.receive arrival) trivial ?_
      have kept : (Inbox.service deployment mode).store.receive arrival _ = _ := received
      simp only [Worker.machine, Worker.step, kept]
  | produce | assign | commit | leave => exact .refl

omit [DecidableEq M] in
theorem messages_kept {inbox later : Inbox.State W J} {label : Inbox.Label W J}
    (reaches : Inbox.Reaches deployment mode clock inbox)
    (stepped : Worker.step (Inbox.service deployment mode) inbox label = some later) :
    ∀ message ∈ inbox.table.map (·.message), message ∈ later.table.map (·.message) := by
  intro message present
  obtain ⟨row, stored, rfl⟩ := List.mem_map.mp present
  obtain ⟨kept, keptStored, same⟩ := Inbox.content_kept reaches stepped stored
  exact List.mem_map.mpr ⟨kept, keptStored,
    congrArg (fun content => (content.source, content.messageId)) same⟩

omit [DecidableEq M] [DecidableEq W] in
/-- A save leaves every row as it was, and a row of its record. -/
theorem saved_rows {record : ConsumerRecord} {arrival : Inbox.Arrival J}
    {table later : Inbox.Table J} {outcome : Inbox.ReceiveOutcome J}
    (uncut : group.Uncut deployment.dialect record)
    (normalized : group.normalize record = .ok arrival.envelope)
    (source : arrival.source = group.source)
    (received : (Inbox.store deployment).receive arrival table = .ok (later, outcome)) :
    group.Stored later record ∧ ∀ row ∈ table, row ∈ later := by
  have message : arrival.message = (group.source, arrival.envelope.metadata.messageId) := by
    rw [Inbox.Arrival.message, source]
  have fits : arrival.Uncut deployment.dialect := by
    intro mysql
    obtain ⟨shortSource, shortId⟩ := uncut mysql
    exact ⟨source ▸ shortSource, shortId _ normalized⟩
  rcases Inbox.receive_adds received with ⟨rfl, known⟩ | ⟨row, rfl, _, own⟩
  · exact ⟨⟨_, normalized, message ▸ known⟩, fun _ stored => stored⟩
  · refine ⟨⟨_, normalized, ?_⟩, fun _ => List.mem_append_left _⟩
    rw [List.map_append, ← message, ← own fits]
    exact List.mem_append_right _ (List.mem_singleton.mpr rfl)

namespace Ahead

omit [DecidableEq M] [DecidableEq W] in
theorem initial : Ahead group (State.initial clock : State M W J) where
  ordered := .nil
  committed _ := ⟨by simp [State.initial], .inl (le_refl _)⟩
  position := by simp [State.initial]
  saved := by simp [State.initial]

omit [DecidableEq M] [DecidableEq W] in
/-- It does not matter what else happens to the inbox. -/
theorem mono (ahead : Ahead group state) {inbox : Inbox.State W J}
    (kept : ∀ message ∈ state.inbox.table.map (·.message),
      message ∈ inbox.table.map (·.message)) : Ahead group { state with inbox } where
  ordered := ahead.ordered
  committed place := (ahead.committed place).mono kept
  position name place position reads := (ahead.position name place position reads).mono kept
  saved name record saved :=
    ⟨(ahead.saved name record saved).1, (ahead.saved name record saved).2.mono kept⟩

omit [DecidableEq W] in
/-- Nor which member does what, as long as it stays behind. -/
theorem become (ahead : Ahead group state) {name : M} {member : Member}
    (position : ∀ place position, member.position place = some position →
      group.Passed state.inbox.table state.log place position)
    (saved : ∀ record, member.saved = some record → record ∈ state.log ∧
      group.Passed state.inbox.table state.log record.place (record.offset + 1)) :
    Ahead group (state.become name member) where
  ordered := ahead.ordered
  committed := ahead.committed
  position other := by
    by_cases same : other = name
    · simpa [State.become, same] using position
    · simpa [State.become, same] using ahead.position other
  saved other := by
    by_cases same : other = name
    · simpa [State.become, same] using saved
    · simpa [State.become, same] using ahead.saved other

/-- Every step keeps the group ahead. -/
theorem step {label : Label M W J} (ahead : Ahead group state)
    (uncut : ∀ record ∈ state.log, group.Uncut deployment.dialect record)
    (reaches : Inbox.Reaches deployment mode clock state.inbox)
    (stepped : KafkaGroup.step group deployment mode state label = some after) :
    Ahead group after := by
  cases stepped_of_step stepped with
  | inbox inboxLabel inbox went => exact ahead.mono (messages_kept reaches went)
  | leave name => exact ahead.become (by simp) (by simp)
  | produce record appends =>
      constructor
      case ordered => exact ahead.ordered.append appends
      case committed => exact fun place => (ahead.committed place).produce appends
      case position =>
        exact fun name place position reads =>
          (ahead.position name place position reads).produce appends
      case saved =>
        intro name other saved
        obtain ⟨listed, passed⟩ := ahead.saved name other saved
        exact ⟨List.mem_append_left _ listed, passed.produce appends⟩
  | assign name place =>
      refine ahead.become (fun other position reads => ?_) (ahead.saved name)
      by_cases same : other = place
      · subst same
        simp only [Function.update_self, Option.some.injEq] at reads
        exact reads ▸ ahead.committed other
      · simp only [Function.update_of_ne same] at reads
        exact ahead.position name other position reads
  | save name place position record envelope arrival table outcome reads fetched normalized source
      carried received =>
      subst carried
      have found := List.find?_some fetched
      have listed := List.mem_of_find?_eq_some fetched
      obtain ⟨recordPlace, _⟩ := of_decide_eq_true found
      obtain ⟨stored, rows⟩ := saved_rows (uncut record listed) normalized source received
      have kept : ∀ message ∈ state.inbox.table.map (·.message),
          message ∈ table.map (·.message) := by
        intro message present
        obtain ⟨row, membership, rfl⟩ := List.mem_map.mp present
        exact List.mem_map_of_mem (rows row membership)
      have passed := ((ahead.position name place position reads).mono kept).fetched
        ahead.ordered fetched stored
      have grown : Ahead group { state with
          inbox := { state.inbox with
            table
            receipts := (arrival, outcome) :: state.inbox.receipts } } := ahead.mono kept
      apply grown.become (fun other next at_ => ?_) (fun other saved => ?_)
      · by_cases same : other = place
        · subst same
          simp only [Function.update_self, Option.some.injEq] at at_
          exact at_ ▸ passed
        · simp only [Function.update_of_ne same] at at_
          exact (ahead.position name other next at_).mono kept
      · obtain rfl := Option.some.inj saved
        exact ⟨listed, recordPlace ▸ passed⟩
  | commit name record saved =>
      obtain ⟨listed, passed⟩ := ahead.saved name record saved
      have idle : Ahead group (state.become name { state.member name with saved := none }) :=
        ahead.become (ahead.position name) (by simp)
      constructor
      case ordered => exact ahead.ordered
      case position => exact idle.position
      case saved => exact idle.saved
      case committed =>
        intro place
        by_cases same : place = record.place
        · subst same
          simpa [State.become] using passed
        · simpa [State.become, same] using ahead.committed place

end Ahead

theorem ahead_of_path {permitted : State M W J → Label M W J → Prop}
    (path : (machine group deployment mode).Path permitted (.initial clock) state)
    (uncut : ∀ record ∈ state.log, group.Uncut deployment.dialect record) :
    Ahead group state := by
  induction path with
  | refl => exact .initial
  | tail earlier last ih =>
      obtain ⟨label, _, stepped⟩ := last
      have before := fun record listed => uncut record (log_grows stepped record listed)
      exact (ih before).step before (inbox_path earlier) stepped

theorem receivedOnce_of_path {permitted : State M W J → Label M W J → Prop}
    (path : (machine group deployment mode).Path permitted (.initial clock) state)
    (uncut : ∀ record ∈ state.log, group.Uncut deployment.dialect record) :
    ReceivedOnce group deployment mode state := by
  have ahead := ahead_of_path path uncut
  constructor
  case committed =>
    intro record listed below
    exact (ahead.committed record.place).stored record listed rfl below
  case passed =>
    rintro record listed name (saved | ⟨position, reads, below⟩)
    · exact (ahead.saved name record saved).2.stored record listed rfl (by omega)
    · exact (ahead.position name _ position reads).stored record listed rfl below
  case one_row =>
    intro row stored
    exact List.count_eq_one_of_mem (KafkaInboxConsumer.messages_nodup (inbox_path path))
      (List.mem_map_of_mem stored)
  case rows_kept =>
    intro name place id time later stepped row stored
    generalize labelled : Label.save name place id time = label at stepped
    cases stepped_of_step stepped with
    | inbox | produce | assign | commit => cases labelled
    | leave => exact stored
    | save _ _ _ record envelope arrival table outcome reads fetched normalized source carried
        received =>
        subst carried
        have listed := List.mem_of_find?_eq_some fetched
        exact (saved_rows (uncut record listed) normalized source received).2 row stored

/-- Rows under the source come from the records of the group, when nobody else uses it. -/
theorem consumed_of_path
    (path : (machine group deployment mode).Path (group.Alone deployment) (.initial clock) state)
    {row : Inbox.InboxMessageRecord J} (stored : row ∈ state.inbox.table)
    (own : row.source = group.source) : group.Consumed deployment state.log row := by
  induction path generalizing row with
  | refl => cases stored
  | @tail before next earlier last ih =>
      obtain ⟨label, alone, stepped⟩ := last
      have kept : ∀ {stored : Inbox.InboxMessageRecord J},
          (∃ old ∈ before.inbox.table, old.content = stored.content) →
          stored.source = group.source → group.Consumed deployment next.log stored := by
        rintro stored ⟨old, oldStored, same⟩ sameSource
        have oldSource := (congrArg Inbox.Content.source same).trans sameSource
        obtain ⟨record, listed, arrival, source, normalized, content⟩ := ih oldStored oldSource
        exact ⟨record, log_grows stepped record listed, arrival, source, normalized,
          same.symm.trans content⟩
      cases stepped_of_step stepped with
      | inbox inboxLabel inbox went =>
          exact kept (Inbox.content_elsewhere (inbox_path earlier) went alone stored own) own
      | produce | assign | commit | leave => exact kept ⟨row, stored, rfl⟩ own
      | save name place position record envelope arrival table outcome reads fetched normalized
          source carried received =>
          subst carried
          rcases Inbox.receive_row received with ⟨rfl, _⟩ | rfl
          · exact kept ⟨row, stored, rfl⟩ own
          · rcases List.mem_append.mp stored with old | new
            · exact kept ⟨row, old, rfl⟩ own
            · rw [List.mem_singleton.mp new]
              exact ⟨record, List.mem_of_find?_eq_some fetched, arrival, source, normalized, rfl⟩

end Steps

end Pactix.Transport.KafkaGroup

namespace Pactix.Guarantees

open Foundation Transport
open Worker (Deployment)

def ordersGroup : KafkaGroup Bool Unit where
  source := "kafka:orders"
  config _ := twoAttempts
  codec := nullCodec

/-- The first member has saved the first record when it loses the partition.  The second member
reads it again and goes on; then the first one commits what it had, the second one dies, and the
first one reads the second record again. -/
def reassigningRun : List (KafkaGroup.Label Bool Bool Unit) :=
  let place := ("orders", 0)
  [.produce (event 0 [("message_id", "m1")]), .assign false place, .save false place 1 0,
    .assign true place, .save true place 2 (2 * second), .commit true, .produce (event 5 []),
    .save true place 3 (3 * second), .inbox (.spawn false), .inbox (handling false 4),
    .inbox (handling false 5), .commit true, .commit false, .leave true, .assign false place,
    .save false place 4 (6 * second)]

end Pactix.Guarantees
