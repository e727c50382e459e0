import Pactix.Inbox.Custody
import Pactix.Transport.Kafka

/-!
# A consumer group

Any number of members read the partitions of some topics into one inbox.  Partitions grow while
they are read and may change hands at any time, also while a member is at work: what such a
member has fetched it still saves, and it may still commit, also to a position that others have
left behind.  Without a committed position a partition is read from its beginning.
-/

namespace Pactix.Transport

open Foundation
open Inbox (Arrival)
open Worker (Deployment)

variable {M W J : Type}

/-- The topic and the partition of a record. -/
def ConsumerRecord.place (record : ConsumerRecord) : String × Int :=
  (record.topic, record.partition)

/-- The members of a group store records under one source, each by a store of its own
configuration. -/
structure KafkaGroup (M J : Type) where
  source : String
  config : M → PactixConfig
  codec : JsonCodec J

namespace KafkaGroup

/-- `normalize_message` after `from_record`. -/
def normalize (group : KafkaGroup M J) (record : ConsumerRecord) :
    Except Error (MessageEnvelope J) := do
  let message ← KafkaInboundMessage.fromRecord group.codec record
  message.toEnvelope

/-- A member: where it is in the partitions that it reads, and the record that it has stored
and whose offset is still to be committed. -/
structure Member where
  position : String × Int → Option Int := fun _ => none
  saved : Option ConsumerRecord := none

/-- The inbox, the records of all partitions in the order in which they were produced, the
committed positions, and the members. -/
structure State (M W J : Type) where
  inbox : Inbox.State W J
  log : List ConsumerRecord := []
  committed : String × Int → Int := fun _ => 0
  member : M → Member := fun _ => {}

/-- What can happen next. -/
inductive Label (M W J : Type) where
  /-- A step of a worker or of another producer of the inbox. -/
  | inbox (label : Inbox.Label W J)
  | produce (record : ConsumerRecord)
  /-- A member starts to read a partition, from the committed position. -/
  | assign (member : M) (place : String × Int)
  /-- The transaction of `save_and_commit` for the next record of a partition. -/
  | save (member : M) (place : String × Int) (id : UUID) (time : Int)
  /-- The offset commit of `save_and_commit`. -/
  | commit (member : M)
  /-- A member dies, or what it calls raises. -/
  | leave (member : M)

/-- The first record of a partition whose offset is not below a position. -/
def fetch (log : List ConsumerRecord) (place : String × Int) (position : Int) :
    Option ConsumerRecord :=
  log.find? fun record => decide (record.place = place ∧ position ≤ record.offset)

/-- A record goes to the end of its partition. -/
def Appends (log : List ConsumerRecord) (record : ConsumerRecord) : Prop :=
  0 ≤ record.offset ∧ ∀ other ∈ log, other.place = record.place → other.offset < record.offset

instance (log : List ConsumerRecord) (record : ConsumerRecord) : Decidable (Appends log record) :=
  inferInstanceAs (Decidable (_ ∧ _))

section Step

variable [DecidableEq M] [DecidableEq W]
variable (group : KafkaGroup M J) (deployment : Deployment W) (mode : W → Inbox.Mode)

/-- A member becomes another. -/
def State.become (state : State M W J) (name : M) (member : Member) : State M W J :=
  { state with member := Function.update state.member name member }

/-- Save the next record of a partition.  What raises ends the member. -/
def save (name : M) (place : String × Int) (id : UUID) (time : Int) (state : State M W J) :
    Option (State M W J) :=
  match (state.member name).saved, (state.member name).position place with
  | none, some position =>
      match fetch state.log place position with
      | none => none
      | some record =>
          match group.normalize record with
          | .error _ => some (state.become name {})
          | .ok envelope =>
              let arrival : Arrival J := ⟨id, time, group.source, envelope, group.config name⟩
              match (Inbox.store deployment).receive arrival state.inbox.table with
              | .error _ => some (state.become name {})
              | .ok (table, outcome) =>
                  let receipts := (arrival, outcome) :: state.inbox.receipts
                  let position := Function.update (state.member name).position place
                    (some (record.offset + 1))
                  some { state.become name { position, saved := some record } with
                    inbox := { state.inbox with table, receipts } }
  | _, _ => none

/-- The transition function. -/
def step (state : State M W J) : Label M W J → Option (State M W J)
  | .inbox label =>
      (Worker.step (Inbox.service deployment mode) state.inbox label).map fun inbox =>
        { state with inbox }
  | .produce record =>
      if Appends state.log record then some { state with log := state.log ++ [record] } else none
  | .assign name place =>
      let position := Function.update (state.member name).position place
        (some (state.committed place))
      some (state.become name { state.member name with position })
  | .save name place id time => group.save deployment name place id time state
  | .commit name =>
      match (state.member name).saved with
      | none => none
      | some record =>
          -- `AIOKafkaOffsetCommitter` commits `offset + 1`.
          let committed := Function.update state.committed record.place (record.offset + 1)
          some { state.become name { state.member name with saved := none } with committed }
  | .leave name => some (state.become name {})

/-- The machine of a group and the workers of its inbox. -/
def machine : Machine (State M W J) (Label M W J) := ⟨step group deployment mode⟩

/-- What a step can be. -/
inductive Stepped (state : State M W J) : Label M W J → State M W J → Prop where
  | inbox (label : Inbox.Label W J) (inbox : Inbox.State W J)
      (stepped : Worker.step (Inbox.service deployment mode) state.inbox label = some inbox) :
      Stepped state (.inbox label) { state with inbox }
  | produce (record : ConsumerRecord) (appends : Appends state.log record) :
      Stepped state (.produce record) { state with log := state.log ++ [record] }
  | assign (name : M) (place : String × Int) :
      Stepped state (.assign name place) (state.become name { state.member name with
        position := Function.update (state.member name).position place
          (some (state.committed place)) })
  | save (name : M) (place : String × Int) (position : Int) (record : ConsumerRecord)
      (envelope : MessageEnvelope J) (arrival : Arrival J) (table : Inbox.Table J)
      (outcome : Inbox.ReceiveOutcome J)
      (reads : (state.member name).position place = some position)
      (fetched : fetch state.log place position = some record)
      (normalized : group.normalize record = .ok envelope)
      (source : arrival.source = group.source) (carried : arrival.envelope = envelope)
      (received : (Inbox.store deployment).receive arrival state.inbox.table =
        .ok (table, outcome)) :
      Stepped state (.save name place arrival.id arrival.time)
        { state.become name {
            position := Function.update (state.member name).position place
              (some (record.offset + 1))
            saved := some record } with
          inbox := { state.inbox with
            table
            receipts := (arrival, outcome) :: state.inbox.receipts } }
  | commit (name : M) (record : ConsumerRecord)
      (saved : (state.member name).saved = some record) :
      Stepped state (.commit name)
        { state.become name { state.member name with saved := none } with
          committed := Function.update state.committed record.place (record.offset + 1) }
  | leave (name : M) (label : Label M W J) (own : ∀ record, label ≠ .produce record) :
      Stepped state label (state.become name {})

variable {group deployment mode} in
theorem stepped_of_step {state after : State M W J} {label : Label M W J}
    (stepped : step group deployment mode state label = some after) :
    Stepped group deployment mode state label after := by
  cases label with
  | inbox label =>
      obtain ⟨inbox, went, rfl⟩ := Option.map_eq_some_iff.mp stepped
      exact .inbox label inbox went
  | produce record =>
      simp only [step] at stepped
      split at stepped
      next appends =>
        obtain rfl := Option.some.inj stepped
        exact .produce record appends
      next => cases stepped
  | assign name place =>
      obtain rfl := Option.some.inj stepped
      exact .assign name place
  | leave name =>
      obtain rfl := Option.some.inj stepped
      exact .leave name _ (by simp)
  | commit name =>
      simp only [step] at stepped
      split at stepped
      next => cases stepped
      next record saved =>
        obtain rfl := Option.some.inj stepped
        exact .commit name record saved
  | save name place id time =>
      simp only [step, save] at stepped
      split at stepped
      next position idle reads =>
        split at stepped
        next => cases stepped
        next record fetched =>
          split at stepped
          next =>
            obtain rfl := Option.some.inj stepped
            exact .leave name _ (by simp)
          next envelope normalized =>
            split at stepped
            next =>
              obtain rfl := Option.some.inj stepped
              exact .leave name _ (by simp)
            next table outcome received =>
              obtain rfl := Option.some.inj stepped
              exact .save name place position record envelope _ table outcome reads fetched
                normalized rfl rfl received
      next => cases stepped

variable {group deployment mode} in
/-- The log only grows. -/
theorem log_grows {state after : State M W J} {label : Label M W J}
    (stepped : step group deployment mode state label = some after) :
    ∀ record ∈ state.log, record ∈ after.log := by
  intro record listed
  cases stepped_of_step stepped with
  | produce other appends => exact List.mem_append_left _ listed
  | inbox | assign | save | commit | leave => exact listed

end Step

/-- An empty inbox, and nothing produced. -/
def State.initial (clock : Int) : State M W J where
  inbox := .initial clock

/-- Nobody else stores under the source of the group. -/
def Alone (group : KafkaGroup M J) (deployment : Deployment W) (state : State M W J) :
    Label M W J → Prop
  | .inbox label => Inbox.Elsewhere deployment group.source state.inbox label
  | .produce _ | .assign _ _ | .save _ _ _ _ | .commit _ | .leave _ => True

instance (group : KafkaGroup M J) (deployment : Deployment W) (state : State M W J)
    (label : Label M W J) : Decidable (group.Alone deployment state label) :=
  match label with
  | .inbox label =>
      inferInstanceAs (Decidable (Inbox.Elsewhere deployment group.source state.inbox label))
  | .produce _ | .assign _ _ | .save _ _ _ _ | .commit _ | .leave _ => isTrue trivial

/-! ## What a member has passed -/

/-- The record has a row of its source and message id. -/
def Stored (group : KafkaGroup M J) (table : Inbox.Table J) (record : ConsumerRecord) : Prop :=
  ∃ envelope, group.normalize record = .ok envelope ∧
    (group.source, envelope.metadata.messageId) ∈ table.map (·.message)

/-- Everything of a partition below a position is stored, and what is produced later comes at
the position or after it. -/
structure Passed (group : KafkaGroup M J) (table : Inbox.Table J) (log : List ConsumerRecord)
    (place : String × Int) (position : Int) : Prop where
  stored : ∀ record ∈ log, record.place = place → record.offset < position →
    group.Stored table record
  reached : position ≤ 0 ∨ ∃ record ∈ log, record.place = place ∧ position ≤ record.offset + 1

/-- In every partition offsets increase. -/
def Ordered (log : List ConsumerRecord) : Prop :=
  log.Pairwise fun earlier later => earlier.place = later.place → earlier.offset < later.offset

theorem Ordered.append {log : List ConsumerRecord} {record : ConsumerRecord}
    (ordered : Ordered log) (appends : Appends log record) : Ordered (log ++ [record]) := by
  rw [Ordered, List.pairwise_append]
  refine ⟨ordered, List.pairwise_singleton _ _, ?_⟩
  intro other listed last new
  rw [List.mem_singleton.mp new]
  exact appends.2 other listed

variable {group : KafkaGroup M J} {table later : Inbox.Table J} {log : List ConsumerRecord}
variable {place : String × Int} {position : Int} {record : ConsumerRecord}

theorem Stored.mono (stored : group.Stored table record)
    (kept : ∀ message ∈ table.map (·.message), message ∈ later.map (·.message)) :
    group.Stored later record := by
  obtain ⟨envelope, normalized, present⟩ := stored
  exact ⟨envelope, normalized, kept _ present⟩

/-- The record that is fetched is the next one of its partition. -/
theorem fetch_next (ordered : Ordered log) (fetched : fetch log place position = some record)
    {other : ConsumerRecord} (listed : other ∈ log) (own : other.place = place) :
    other.offset < position ∨ other = record ∨ record.offset < other.offset := by
  obtain ⟨found, before, after, split, skipped⟩ := List.find?_eq_some_iff_append.mp fetched
  obtain ⟨recordPlace, _⟩ := of_decide_eq_true found
  subst split
  rw [Ordered, List.pairwise_append, List.pairwise_cons] at ordered
  rcases List.mem_append.mp listed with early | late
  · have skips := skipped other early
    simp only [Bool.not_eq_true', decide_eq_false_iff_not, not_and, not_le] at skips
    exact .inl (skips own)
  · rcases List.mem_cons.mp late with rfl | after
    · exact .inr (.inl rfl)
    · exact .inr (.inr (ordered.2.1.1 other after (recordPlace.trans own.symm)))

namespace Passed

theorem mono (passed : group.Passed table log place position)
    (kept : ∀ message ∈ table.map (·.message), message ∈ later.map (·.message)) :
    group.Passed later log place position where
  stored record listed own below := (passed.stored record listed own below).mono kept
  reached := passed.reached

/-- A record that is produced comes after what was passed. -/
theorem produce (passed : group.Passed table log place position) (appends : Appends log record) :
    group.Passed table (log ++ [record]) place position where
  stored other listed own below := by
    rcases List.mem_append.mp listed with before | new
    · exact passed.stored other before own below
    · obtain rfl := List.mem_singleton.mp new
      rcases passed.reached with start | ⟨last, lastListed, lastOwn, reached⟩
      · have := appends.1
        omega
      · have := appends.2 last lastListed (lastOwn.trans own.symm)
        omega
  reached := by
    rcases passed.reached with start | ⟨last, listed, own, reached⟩
    · exact .inl start
    · exact .inr ⟨last, List.mem_append_left _ listed, own, reached⟩

/-- What lies before the record that is fetched has been passed. -/
theorem skipped (passed : group.Passed table log place position) (ordered : Ordered log)
    (fetched : fetch log place position = some record) {other : ConsumerRecord}
    (listed : other ∈ log) (own : other.place = place) (before : other.offset < record.offset) :
    group.Stored table other := by
  rcases fetch_next ordered fetched listed own with below | rfl | above
  · exact passed.stored other listed own below
  · exact absurd before (lt_irrefl _)
  · exact absurd before (lt_asymm above)

/-- A record that is fetched and stored is passed. -/
theorem fetched (passed : group.Passed table log place position) (ordered : Ordered log)
    (fetched : fetch log place position = some record) (stored : group.Stored table record) :
    group.Passed table log place (record.offset + 1) := by
  have listed := List.mem_of_find?_eq_some fetched
  have found := List.find?_some fetched
  obtain ⟨recordPlace, _⟩ := of_decide_eq_true found
  constructor
  case reached => exact .inr ⟨record, listed, recordPlace, le_refl _⟩
  case stored =>
    intro other otherListed own below
    rcases fetch_next ordered fetched otherListed own with before | rfl | above
    · exact passed.stored other otherListed own before
    · exact stored
    · exact absurd above (not_lt_of_ge (Int.lt_add_one_iff.mp below))

end Passed

end KafkaGroup

end Pactix.Transport
