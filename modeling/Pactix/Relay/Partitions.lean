import Pactix.Relay.Kafka
import Pactix.Relay.Order

/-!
# Partitions in turn

The broker puts messages with one key into one partition, where they stay in the order in which
they were produced.
-/

namespace Pactix.Relay

open Foundation Transport
open Outbox (OutboxMessageRecord)
open Worker (Deployment Foremost InTurn)

variable {M V W J : Type} [DecidableEq M] [DecidableEq V] [DecidableEq W]

section Permission

variable (partition : String → ByteArray → Int) (group : KafkaGroup M J)
variable (sending : Deployment W) (receiving : Deployment V) (mode : V → Inbox.Mode)

/-- Messages with a key go to the partition of the key, and the rows of a key come into the inbox
at increasing times. -/
def GroupInTurn (state : State W J KafkaProducedMessage (KafkaGroup.State M V J) Unit) :
    Label W J (Int × Int) (KafkaGroup.Label M V J) Unit → Prop
  | .arrive index placed => ∀ dispatch ∈ state.delivery.dispatches[index]?,
      ∀ key ∈ (send dispatch.message).key, placed.1 = partition dispatch.message.topic key
  | .own (.inbox label) =>
      InTurn (Inbox.service receiving mode) state.delivery.receiver.inbox label
  | .own (.save name place id time) =>
      ∀ after ∈ group.save receiving name place id time state.delivery.receiver,
        ∀ row ∈ after.inbox.table, row.id ∉ state.delivery.receiver.inbox.table.map (·.id) →
          Worker.Serial (Inbox.service receiving mode) state.delivery.receiver.inbox.table row
  | .own (.produce _) | .own (.assign _ _) | .own (.commit _) | .own (.leave _) => True
  | .outbox _ | .send _ | .conclude _ _ _ => True

instance (state : State W J KafkaProducedMessage (KafkaGroup.State M V J) Unit)
    (label : Label W J (Int × Int) (KafkaGroup.Label M V J) Unit) :
    Decidable (GroupInTurn partition group receiving mode state label) :=
  match label with
  | .arrive index placed => inferInstanceAs (Decidable (
      ∀ dispatch ∈ state.delivery.dispatches[index]?,
        ∀ key ∈ (send dispatch.message).key, placed.1 = partition dispatch.message.topic key))
  | .own (.inbox inboxLabel) => inferInstanceAs (Decidable (
      InTurn (Inbox.service receiving mode) state.delivery.receiver.inbox inboxLabel))
  | .own (.save name place id time) => inferInstanceAs (Decidable (
      ∀ after ∈ group.save receiving name place id time state.delivery.receiver,
        ∀ row ∈ after.inbox.table, row.id ∉ state.delivery.receiver.inbox.table.map (·.id) →
          Worker.Serial (Inbox.service receiving mode) state.delivery.receiver.inbox.table row))
  | .own (.produce _) | .own (.assign _ _) | .own (.commit _) | .own (.leave _) => isTrue trivial
  | .outbox _ | .send _ | .conclude _ _ _ => isTrue trivial

/-- Both ends keep their leases and their keys in turn, and the broker its partitions. -/
def KafkaInTurn (clock : Int)
    (state : State W J KafkaProducedMessage (KafkaGroup.State M V J) Unit)
    (label : Label W J (Int × Int) (KafkaGroup.Label M V J) Unit) : Prop :=
  OutboxInTurn sending state label ∧
    Within (kafkaTerms group receiving mode clock) state label ∧
    GroupInTurn partition group receiving mode state label

instance (clock : Int) (state : State W J KafkaProducedMessage (KafkaGroup.State M V J) Unit)
    (label : Label W J (Int × Int) (KafkaGroup.Label M V J) Unit) :
    Decidable (KafkaInTurn partition group sending receiving mode clock state label) :=
  inferInstanceAs (Decidable (OutboxInTurn sending state label ∧
    Within (kafkaTerms group receiving mode clock) state label ∧
    GroupInTurn partition group receiving mode state label))

end Permission

variable {partition : String → ByteArray → Int} {group : KafkaGroup M J} {router : KafkaTopicRouter}
variable {sending : Deployment W} {receiving : Deployment V} {mode : V → Inbox.Mode}
variable {clock inboxClock : Int}
variable {state after : State W J KafkaProducedMessage (KafkaGroup.State M V J) Unit}
variable {label : Label W J (Int × Int) (KafkaGroup.Label M V J) Unit}

/-- A step of the relay leaves the inbox as it is, or is a step of the inbox in turn: one of
its own, or the call for a record that a member has fetched. -/
inductive Fetched (group : KafkaGroup M J) (receiving : Deployment V) (mode : V → Inbox.Mode)
    (before : KafkaGroup.State M V J) (inbox : Inbox.State V J) : Prop where
  | same (same : inbox = before.inbox)
  | own (label : Inbox.Label V J)
      (elsewhere : Inbox.Elsewhere receiving group.source before.inbox label)
      (stepped : Worker.step (Inbox.service receiving mode) before.inbox label = some inbox)
      (inTurn : InTurn (Inbox.service receiving mode) before.inbox label)
  | save (name : M) (place : String × Int) (position : Int) (record : ConsumerRecord)
      (arrival : Inbox.Arrival J)
      (reads : (before.member name).position place = some position)
      (fetched : KafkaGroup.fetch before.log place position = some record)
      (normalized : group.normalize record = .ok arrival.envelope)
      (source : arrival.source = group.source)
      (stepped : Worker.step (Inbox.service receiving mode) before.inbox (.receive arrival) =
        some inbox)
      (inTurn : InTurn (Inbox.service receiving mode) before.inbox (.receive arrival))

theorem Stepped.fetched (stepped : Stepped (kafkaCarrier router group receiving mode) sending state
      label after)
    (inTurn : KafkaInTurn partition group sending receiving mode clock state label) :
    Fetched group receiving mode state.delivery.receiver after.delivery.receiver.inbox := by
  obtain ⟨_, within, permitted⟩ := inTurn
  cases stepped with
  | outbox | send | conclude => exact .same rfl
  | arrive index placed delivery went =>
      cases Receiver.stepped_of_step went with
      | arrive _ _ dispatch receiver answer sent took =>
          obtain ⟨next, produced, same⟩ := Option.map_eq_some_iff.mp took
          obtain ⟨rfl, _⟩ := Prod.mk.inj same
          cases KafkaGroup.stepped_of_step produced with
          | produce => exact .same rfl
          | leave _ _ own => exact absurd rfl (own _)
  | own ownLabel delivery went =>
      cases Receiver.stepped_of_step went with
      | own _ receiver goes =>
          have goes : group.step receiving mode state.delivery.receiver ownLabel = some receiver :=
            goes
          cases KafkaGroup.stepped_of_step goes with
          | produce | assign | commit | leave => exact .same rfl
          | inbox inboxLabel inbox stepped => exact .own inboxLabel within stepped permitted
          | save name place position record envelope arrival table outcome reads fetched
              normalized source carried received =>
              subst carried
              have kept : (Inbox.service receiving mode).store.receive arrival _ = _ := received
              refine .save name place position record arrival reads fetched normalized source
                (by simp only [Worker.step, kept]) ⟨⟨trivial, trivial⟩, ?_⟩
              intro result found row present fresh
              rw [kept] at found
              obtain rfl := Option.some.inj found
              exact permitted _ goes row present fresh

/-- What the inbox goes through happens in turn. -/
theorem group_inTurn (path : (machine (kafkaCarrier router group receiving mode) sending).Path
      (KafkaInTurn partition group sending receiving mode clock)
      (.initial inboxClock (.initial clock)) state) :
    (Worker.machine (Inbox.service receiving mode)).Path (InTurn (Inbox.service receiving mode))
      (.initial clock) state.delivery.receiver.inbox := by
  apply Machine.path_project (fun state => state.delivery.receiver.inbox) _ path
  intro before label after inTurn stepped
  cases (stepped_of_step stepped).fetched inTurn with
  | same same => rw [same]
  | own ownLabel elsewhere went permitted => exact Machine.path_single ownLabel permitted went
  | save name place position record arrival reads fetched normalized source went permitted =>
      exact Machine.path_single _ permitted went

/-! ## Places -/

/-- A record with a key is in the partition of the key. -/
def Keyed (partition : String → ByteArray → Int) (record : ConsumerRecord) : Prop :=
  ∀ key ∈ record.key, record.partition = partition record.topic key

/-- What a step adds to the log is the message of a dispatch, in its partition. -/
theorem Stepped.logged (stepped : Stepped (kafkaCarrier router group receiving mode) sending state
      label after)
    (inTurn : KafkaInTurn partition group sending receiving mode clock state label) :
    after.delivery.receiver.log = state.delivery.receiver.log ∨
      ∃ dispatch ∈ state.delivery.dispatches, ∃ placed offset,
        KafkaGroup.Appends state.delivery.receiver.log
          (Relay.delivered dispatch.message placed offset) ∧
        Keyed partition (Relay.delivered dispatch.message placed offset) ∧
        after.delivery.receiver.log = state.delivery.receiver.log ++
          [Relay.delivered dispatch.message placed offset] := by
  obtain ⟨_, within, permitted⟩ := inTurn
  cases stepped with
  | outbox | send | conclude => exact .inl rfl
  | arrive index placed delivery went =>
      cases Receiver.stepped_of_step went with
      | arrive _ _ dispatch receiver answer sent took =>
          obtain ⟨next, produced, same⟩ := Option.map_eq_some_iff.mp took
          obtain ⟨rfl, _⟩ := Prod.mk.inj same
          cases KafkaGroup.stepped_of_step produced with
          | leave _ _ own => exact absurd rfl (own _)
          | produce _ appends =>
              exact .inr ⟨dispatch, List.mem_of_getElem? sent, placed.1, placed.2, appends,
                permitted dispatch sent, rfl⟩
  | own ownLabel delivery went =>
      cases Receiver.stepped_of_step went with
      | own _ receiver goes =>
          have goes : group.step receiving mode state.delivery.receiver ownLabel = some receiver :=
            goes
          cases KafkaGroup.stepped_of_step goes with
          | produce => exact absurd within id
          | inbox | assign | save | commit | leave => exact .inl rfl

theorem keyed_of_path (path : (machine (kafkaCarrier router group receiving mode) sending).Path
      (KafkaInTurn partition group sending receiving mode clock)
      (.initial inboxClock (.initial clock)) state) :
    ∀ record ∈ state.delivery.receiver.log, Keyed partition record := by
  induction path with
  | refl =>
      intro record listed
      cases listed
  | tail _ last ih =>
      obtain ⟨label, inTurn, stepped⟩ := last
      intro record listed
      rcases (stepped_of_step stepped).logged inTurn with same | ⟨_, _, _, _, _, keyed, grown⟩
      · exact ih record (same ▸ listed)
      · rcases List.mem_append.mp (grown ▸ listed) with before | new
        · exact ih record before
        · exact List.mem_singleton.mp new ▸ keyed

end Pactix.Relay
