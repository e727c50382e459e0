import Pactix.Foundation.Journal
import Pactix.Guarantees.Leases
import Pactix.Inbox.Receiving

/-!
# Inbox deduplication

On PostgreSQL a message is stored once for each source, by the first call that commits,
whatever workers do to its row.
-/

namespace Pactix.Guarantees

open Foundation Worker
open Inbox (InboxMessageRecord mapRecord)

variable {Worker J : Type}

/-- States of an inbox. -/
abbrev InboxState (Worker J : Type) := State Worker (InboxMessageRecord J) (Inbox.Query J)
  Inbox.RunSummary (Inbox.Arrival J) (Inbox.ReceiveOutcome J) Inbox.Query.Reply

/-- Every received message has one row, which the first call has inserted and no later
one touches. -/
structure Deduplicated (deployment : Deployment Worker) (state : InboxState Worker J) : Prop where
  one_row : ∀ receipt ∈ state.receipts,
    (state.table.map (·.message)).count receipt.1.message = 1
  one_insert : ∀ receipt ∈ state.receipts,
    ((state.receipts.filter (·.2.inserted)).map (·.1.message)).count receipt.1.message = 1
  first_inserts : MarksFirst (·.1.message) (·.2.inserted) state.receipts
  first_stored : ∀ receipt ∈ state.receipts, receipt.2.inserted = true →
    ∀ row ∈ state.table, row.message = receipt.1.message → row.content = receipt.1.content
  duplicate : ∀ receipt ∈ state.receipts, ∀ arrival : Inbox.Arrival J,
    arrival.message = receipt.1.message →
    ∃ row ∈ state.table, row.message = arrival.message ∧
      (Inbox.store deployment).receive arrival state.table =
        .ok (state.table, ⟨mapRecord row, false⟩)

/-- The table and the journal of receipts agree. -/
structure Receipted (table : List (InboxMessageRecord J))
    (receipts : List (Inbox.Arrival J × Inbox.ReceiveOutcome J)) : Prop where
  distinct : (table.map (·.message)).Nodup
  first_inserts : MarksFirst (·.1.message) (·.2.inserted) receipts
  not_blank : ∀ receipt ∈ receipts, isBlank receipt.1.source = false
  stored : ∀ receipt ∈ receipts, receipt.1.message ∈ table.map (·.message)
  inserted : ∀ receipt ∈ receipts, receipt.2.inserted = true →
    receipt.1.content ∈ table.map (·.content)
  received : ∀ row ∈ table, ∃ receipt ∈ receipts, receipt.1.message = row.message

namespace Receipted

variable {deployment : Deployment Worker} {table after : List (InboxMessageRecord J)}
  {receipts : List (Inbox.Arrival J × Inbox.ReceiveOutcome J)}

/-- Only the fixed columns matter. -/
theorem of_contents (receipted : Receipted table receipts)
    (same : after.map (·.content) = table.map (·.content)) :
    Receipted after receipts := by
  have messages : ∀ rows : List (InboxMessageRecord J), rows.map (·.message) =
      (rows.map (·.content)).map fun content => (content.source, content.messageId) :=
    fun rows => by rw [List.map_map]; rfl
  have sameMessages : after.map (·.message) = table.map (·.message) := by
    rw [messages, messages, same]
  refine ⟨?_, receipted.first_inserts, receipted.not_blank, ?_, ?_, ?_⟩
  · rw [sameMessages]
    exact receipted.distinct
  · rw [sameMessages]
    exact receipted.stored
  · rw [same]
    exact receipted.inserted
  · intro row membership
    have known := List.mem_map_of_mem (f := (·.message)) membership
    rw [sameMessages, List.mem_map] at known
    obtain ⟨other, otherMem, sameMessage⟩ := known
    obtain ⟨receipt, receiptMem, found⟩ := receipted.received other otherMem
    exact ⟨receipt, receiptMem, found.trans sameMessage⟩

/-- Every committed call keeps table and journal in agreement. -/
theorem receive (postgresql : deployment.dialect = .postgresql)
    (receipted : Receipted table receipts) {arrival : Inbox.Arrival J}
    {outcome : Inbox.ReceiveOutcome J}
    (saved : (Inbox.store deployment).receive arrival table = .ok (after, outcome)) :
    Receipted after ((arrival, outcome) :: receipts) := by
  obtain ⟨notBlank, ⟨found, rfl, known⟩ | ⟨added, unknown, row, rfl, content⟩⟩ :=
    Inbox.receive_eq_ok postgresql saved
  · refine ⟨receipted.distinct, ⟨?_, receipted.first_inserts⟩, ?_, ?_, ?_, ?_⟩
    · simp only [found, Bool.false_eq_true, false_iff]
      intro none
      obtain ⟨row, membership, same⟩ := List.mem_map.mp known
      obtain ⟨receipt, receiptMem, sameMessage⟩ := receipted.received row membership
      exact none receipt receiptMem (sameMessage.trans same)
    · simpa [notBlank] using receipted.not_blank
    · exact List.forall_mem_cons.mpr ⟨known, receipted.stored⟩
    · refine List.forall_mem_cons.mpr ⟨fun isInserted => ?_, receipted.inserted⟩
      simp [found] at isInserted
    · intro row membership
      obtain ⟨receipt, receiptMem, same⟩ := receipted.received row membership
      exact ⟨receipt, List.mem_cons_of_mem _ receiptMem, same⟩
  · have message : row.message = arrival.message :=
      congrArg (fun content => (content.source, content.messageId)) content
    refine ⟨?_, ⟨?_, receipted.first_inserts⟩, ?_, ?_, ?_, ?_⟩
    · rw [List.map_append, List.map_singleton, message]
      exact receipted.distinct.append (List.nodup_singleton _)
        (List.disjoint_singleton.mpr unknown)
    · simp only [added, true_iff]
      intro receipt membership same
      exact unknown (same ▸ receipted.stored receipt membership)
    · simpa [notBlank] using receipted.not_blank
    · rw [List.map_append]
      refine List.forall_mem_cons.mpr ⟨by simp [message], fun receipt membership => ?_⟩
      exact List.mem_append_left _ (receipted.stored receipt membership)
    · rw [List.map_append]
      refine List.forall_mem_cons.mpr ⟨fun _ => by simp [content], fun receipt membership yes => ?_⟩
      exact List.mem_append_left _ (receipted.inserted receipt membership yes)
    · intro other membership
      simp only [List.mem_append, List.mem_singleton] at membership
      rcases membership with earlier | rfl
      · obtain ⟨receipt, receiptMem, same⟩ := receipted.received other earlier
        exact ⟨receipt, List.mem_cons_of_mem _ receiptMem, same⟩
      · exact ⟨(arrival, outcome), List.mem_cons_self, message.symm⟩

theorem deduplicated (postgresql : deployment.dialect = .postgresql)
    {state : InboxState Worker J}
    (receipted : Receipted state.table state.receipts) :
    Deduplicated deployment state where
  one_row receipt membership :=
    List.count_eq_one_of_mem receipted.distinct (receipted.stored receipt membership)
  one_insert receipt membership :=
    List.count_eq_one_of_mem receipted.first_inserts.nodup
      (receipted.first_inserts.key_mem membership)
  first_inserts := receipted.first_inserts
  first_stored receipt membership inserted row rowMem same := by
    obtain ⟨stored, storedMem, content⟩ :=
      List.mem_map.mp (receipted.inserted receipt membership inserted)
    have message : stored.message = receipt.1.message :=
      congrArg (fun content => (content.source, content.messageId)) content
    have unique := List.inj_on_of_nodup_map receipted.distinct rowMem storedMem
      (same.trans message.symm)
    rw [unique, content]
  duplicate receipt membership arrival same := by
    have known := receipted.stored receipt membership
    rw [← same, List.mem_map] at known
    obtain ⟨stored, storedMem, message⟩ := known
    have isSame := Inbox.sameMessage_eq_true.mpr message
    have sameSource : arrival.source = receipt.1.source := congrArg Prod.fst same
    have notBlank : isBlank arrival.source = false := by
      rw [sameSource]
      exact receipted.not_blank receipt membership
    cases found : state.table.find? (Inbox.sameMessage arrival.source
        arrival.envelope.metadata.messageId) with
    | none =>
        have missing := List.find?_eq_none.mp found stored storedMem
        exact absurd isSame missing
    | some row =>
        refine ⟨row, List.mem_of_find?_eq_some found,
          Inbox.sameMessage_eq_true.mp (List.find?_some found), ?_⟩
        simp only [Inbox.store, postgresql]
        exact Inbox.saveReceived_duplicate _ _ _ _ notBlank found

end Receipted

theorem receipted_of_path [DecidableEq Worker] {deployment : Deployment Worker}
    (postgresql : deployment.dialect = .postgresql) {mode : Worker → Inbox.Mode} {clock : Int}
    {state : InboxState Worker J}
    (path : (machine (Inbox.service deployment mode)).Path Machine.Free (.initial clock) state) :
    Receipted state.table state.receipts := by
  induction path with
  | refl => exact ⟨by simp [State.initial], trivial, by simp [State.initial],
      by simp [State.initial], by simp [State.initial], by simp [State.initial]⟩
  | tail earlier last ih =>
      obtain ⟨label, _, stepped⟩ := last
      by_cases receives : ∃ arrival, label = .receive arrival
      · obtain ⟨arrival, rfl⟩ := receives
        simp only [machine, step] at stepped
        split at stepped
        next table outcome saved =>
          obtain rfl := Option.some.inj stepped
          exact ih.receive postgresql saved
        next =>
          obtain rfl := Option.some.inj stepped
          exact ih
      · obtain ⟨queue, simulates, _⟩ := evidenced_of_path earlier
        have cards := simulates.cards_kept stepped fun arrival same => receives ⟨arrival, same⟩
        have contents := congrArg (List.map Queue.Card.body) cards
        rw [List.map_map, List.map_map] at contents
        rw [receipts_kept stepped fun arrival same => receives ⟨arrival, same⟩]
        exact ih.of_contents contents

/-- In every run of an inbox on PostgreSQL, each message is stored once, by the first call
that commits, and received again without effect. -/
theorem messages_deduplicated [DecidableEq Worker] (deployment : Deployment Worker)
    (postgresql : deployment.dialect = .postgresql) (mode : Worker → Inbox.Mode) (clock : Int)
    (state : InboxState Worker J)
    (path : (machine (Inbox.service deployment mode)).Path Machine.Free (.initial clock) state) :
    Deduplicated deployment state :=
  (receipted_of_path postgresql path).deduplicated postgresql

/-- A message arrives again while its row is in processing, and from another source. -/
def redeliveredRun : List InboxLabel :=
  [receiving 1 0 m1, .spawn false, handling false 1, handling false 2,
    receiving 2 3 m1, receiving 3 4 m1 "depot",
    receiving 4 5 m1]

theorem messages_deduplicated_sample :
    ∃ state, (machine inbox).replay Machine.Free (.initial 0) redeliveredRun = some state ∧
      state.receipts.map (·.2.inserted) = [false, true, false, true] ∧
      state.table.map (·.status) = [.processing, .pending] ∧
      Deduplicated deployment state := by
  have path := (machine inbox).path_replay Machine.Free (.initial 0) redeliveredRun
    (by decide +kernel)
  exact ⟨_, (Option.some_get _).symm, by decide +kernel, by decide +kernel,
    messages_deduplicated deployment rfl _ 0 _ path⟩

end Pactix.Guarantees
