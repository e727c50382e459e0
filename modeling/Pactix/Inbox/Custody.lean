import Pactix.Inbox.Receiving
import Pactix.Worker.Runs

/-!
# The rows of one source

What an inbox holds under a source is what was received under it: workers and the producers of
other sources keep it and add nothing.
-/

namespace Pactix.Inbox

open Foundation
open Worker (Deployment)

variable {W J : Type} {deployment : Deployment W}

/-- The states of an inbox, and what can happen to it. -/
abbrev State (W J : Type) := Worker.State W (InboxMessageRecord J) (Query J) RunSummary (Arrival J)
  (ReceiveOutcome J) Query.Reply

abbrev Label (W J : Type) := Worker.Label W (InboxMessageRecord J) (Query J) (Arrival J) Query.Reply

/-- The runs of an inbox from the empty one. -/
abbrev Reaches [DecidableEq W] (deployment : Deployment W) (mode : W → Mode) (clock : Int)
    (inbox : State W J) : Prop :=
  (Worker.machine (service deployment mode)).Path Machine.Free (.initial clock) inbox

/-! ## The row of a call -/

/-- What the table stores of some values: MySQL cuts them. -/
def asStored (dialect : Dialect) (values : InboxMessageRecord J) : InboxMessageRecord J :=
  match dialect with
  | .postgresql => values
  | .mysql => truncated values

/-- The row that a call adds. -/
def Arrival.row (deployment : Deployment W) (arrival : Arrival J) : InboxMessageRecord J :=
  asStored deployment.dialect (recordValues arrival.record deployment.dialect)

/-- The source is stored as it is. -/
def SourceFits (deployment : Deployment W) (source : String) : Prop :=
  deployment.dialect = .mysql → Short source

instance (deployment : Deployment W) (source : String) :
    Decidable (SourceFits deployment source) :=
  inferInstanceAs (Decidable (_ → _))

theorem source_row {arrival : Arrival J} (fits : SourceFits deployment arrival.source) :
    (arrival.row deployment).source = arrival.source := by
  unfold Arrival.row asStored
  split
  next => rfl
  next mysql => exact truncate_of_short (fits mysql)

/-- The row of a call that fits has the fields of its envelope. -/
theorem content_row {arrival : Arrival J}
    (fits : deployment.dialect = .mysql → arrival.Fits) :
    (arrival.row deployment).content = arrival.content := by
  have uncut : arrival.row deployment = recordValues arrival.record deployment.dialect := by
    unfold Arrival.row asStored
    split
    next postgresql => rfl
    next mysql =>
      apply truncated_of_fits
      · rw [received_recordValues]
        exact (fits mysql).received
      · exact (fits mysql).messageKey
  rw [uncut]
  simp [InboxMessageRecord.content, recordValues, Arrival.record, Arrival.content,
    InboxMessageRecord.ofEnvelope]

/-- A committed call finds its message or adds its row. -/
theorem receive_row {arrival : Arrival J} {table after : Table J} {outcome : ReceiveOutcome J}
    (saved : (store deployment).receive arrival table = .ok (after, outcome)) :
    (after = table ∧ arrival.message ∈ table.map InboxMessageRecord.message) ∨
      after = table ++ [arrival.row deployment] := by
  have received : receive deployment.dialect arrival table = (.ok outcome, after) := by
    simp only [store] at saved
    rw [receive, saved]
  have notBlank : isBlank arrival.source = false := by
    cases blank : isBlank arrival.source with
    | false => rfl
    | true =>
        rw [receive_blank _ blank] at received
        cases received
  unfold Arrival.row asStored
  cases dialect : deployment.dialect with
  | postgresql =>
      rw [dialect] at received
      by_cases known : arrival.message ∈ table.map InboxMessageRecord.message
      · have found : ∃ row ∈ table, receive .postgresql arrival table = _ :=
          receive_postgresql_known notBlank known
        obtain ⟨row, _, found⟩ := found
        rw [found] at received
        exact .inl ⟨(congrArg Prod.snd received).symm, known⟩
      · rw [receive_postgresql_unknown notBlank known] at received
        split at received
        · cases received
        · exact .inr (congrArg Prod.snd received).symm
  | mysql =>
      rw [dialect] at received
      rcases insertIgnore_eq (recordValues arrival.record .mysql) table with
        skipped | ⟨added, _⟩
      · rw [receive_mysql_skipped notBlank skipped] at received
        split at received
        next row found =>
          refine .inl ⟨(congrArg Prod.snd received).symm, List.mem_map.mpr ⟨row, ?_, ?_⟩⟩
          · exact List.mem_of_find?_eq_some found
          · exact sameMessage_eq_true.mp (List.find?_some found)
        next => cases received
      · rw [receive_mysql_inserted notBlank (by rw [added]), added] at received
        exact .inr (congrArg Prod.snd received).symm

/-! ## Steps -/

section Steps

variable [DecidableEq W] {mode : W → Mode} {clock : Int} {inbox after : State W J}
variable {label : Label W J}

/-- Another producer uses another source. -/
def Elsewhere (deployment : Deployment W) (source : String) (_ : State W J) : Label W J → Prop
  | .receive arrival => arrival.source ≠ source ∧ SourceFits deployment arrival.source
  | .spawn _ | .crash _ | .act _ _ => True

omit [DecidableEq W] in
instance (source : String) (inbox : State W J) (label : Label W J) :
    Decidable (Elsewhere deployment source inbox label) :=
  match label with
  | .receive _ => inferInstanceAs (Decidable (_ ∧ _))
  | .spawn _ | .crash _ | .act _ _ => isTrue trivial

/-- A step keeps the fixed columns of every row. -/
theorem content_kept (reaches : Reaches deployment mode clock inbox)
    (stepped : Worker.step (service deployment mode) inbox label = some after)
    {row : InboxMessageRecord J} (stored : row ∈ inbox.table) :
    ∃ kept ∈ after.table, kept.content = row.content := by
  obtain ⟨queue, simulates, _⟩ := Worker.evidenced_of_path reaches
  obtain ⟨kept, keptStored, sameCard, _⟩ :=
    simulates.rows_kept (Machine.path_single label trivial stepped) stored
  exact ⟨kept, keptStored, congrArg Queue.Card.body sameCard⟩

/-- Only receiving makes new rows, one at a time. -/
theorem content_step (reaches : Reaches deployment mode clock inbox)
    (stepped : Worker.step (service deployment mode) inbox label = some after)
    {row : InboxMessageRecord J} (stored : row ∈ after.table) :
    (∃ earlier ∈ inbox.table, earlier.content = row.content) ∨
      ∃ arrival, label = .receive arrival ∧ row = arrival.row deployment := by
  by_cases receives : ∃ arrival, label = .receive arrival
  · obtain ⟨arrival, rfl⟩ := receives
    cases Worker.stepped_of_step stepped with
    | reject => exact .inl ⟨row, stored, rfl⟩
    | receive _ table outcome received =>
        rcases receive_row received with ⟨same, _⟩ | added
        · exact .inl ⟨row, same ▸ stored, rfl⟩
        · simp only [added, List.mem_append, List.mem_singleton] at stored
          rcases stored with earlier | new
          · exact .inl ⟨row, earlier, rfl⟩
          · exact .inr ⟨arrival, rfl, new⟩
  · obtain ⟨queue, simulates, _⟩ := Worker.evidenced_of_path reaches
    have cards := simulates.cards_kept stepped fun arrival same => receives ⟨arrival, same⟩
    have card : row.entry.card ∈ inbox.table.map fun row => row.entry.card := by
      have membership : row.entry.card ∈ after.table.map fun row => row.entry.card :=
        List.mem_map_of_mem stored
      exact cards ▸ membership
    obtain ⟨earlier, before, same⟩ := List.mem_map.mp card
    exact .inl ⟨earlier, before, congrArg Queue.Card.body same⟩

/-- Who uses other sources adds no row under this one. -/
theorem content_elsewhere {source : String} (reaches : Reaches deployment mode clock inbox)
    (stepped : Worker.step (service deployment mode) inbox label = some after)
    (elsewhere : Elsewhere deployment source inbox label) {row : InboxMessageRecord J}
    (stored : row ∈ after.table) (own : row.source = source) :
    ∃ earlier ∈ inbox.table, earlier.content = row.content := by
  rcases content_step reaches stepped stored with before | ⟨arrival, rfl, rfl⟩
  · exact before
  · rw [source_row elsewhere.2] at own
    exact absurd own elsewhere.1

omit [DecidableEq W] in
/-- A committed call leaves a row of its message. -/
theorem message_received {arrival : Arrival J} {table after : Table J}
    {outcome : ReceiveOutcome J} (fits : deployment.dialect = .mysql → arrival.Fits)
    (saved : (store deployment).receive arrival table = .ok (after, outcome)) :
    ∃ row ∈ after, row.message = arrival.message := by
  rcases receive_row saved with ⟨rfl, known⟩ | rfl
  · exact List.mem_map.mp known
  · refine ⟨_, List.mem_append_right _ (List.mem_singleton.mpr rfl), ?_⟩
    exact congrArg (fun content => (content.source, content.messageId)) (content_row fits)

end Steps

end Pactix.Inbox
