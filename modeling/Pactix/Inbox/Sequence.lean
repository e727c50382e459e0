import Pactix.Inbox.Effects
import Pactix.Worker.Precedence

/-!
# The order of effects

Where the rows of a key are handled one after the other, and by workers that still have them,
their effects are committed in the order of the rows.
-/

namespace Pactix.Inbox

open Foundation
open Worker (Deployment Foremost InTurn Simulates)

variable {W J : Type}

/-- An earlier row of the same event type and ordering key. -/
def InboxMessageRecord.Precedes (older row : InboxMessageRecord J) : Prop :=
  older.entry.card.Older row.entry.card

namespace Effects

/-- Everything before a row whose effect is committed is finished, and its own effect is not
committed any more. -/
structure Sequenced (deployment : Deployment W) (mode : W → Mode) (state : Effects W J) : Prop where
  foremost : ∀ row ∈ state.inbox.table, row.message ∈ state.applied →
    Foremost (service deployment mode) state.inbox.table row
  inOrder : state.applied.Pairwise fun later earlier =>
    ∀ older ∈ state.inbox.table, ∀ row ∈ state.inbox.table,
      older.message = later → row.message = earlier → ¬older.Precedes row

variable {deployment : Deployment W} {mode : W → Mode} {state after : Effects W J}
variable {deed : Deed W J}

theorem Sequenced.initial (clock : Int) :
    Sequenced deployment mode (.initial clock : Effects W J) where
  foremost _ stored := absurd stored List.not_mem_nil
  inOrder := .nil

variable [DecidableEq W]

omit [DecidableEq W] in
/-- What a worker still has of a message is in processing. -/
theorem processing_of_kept {inbox : State W J} {queue : Worker.QueueState W (Content J)}
    (simulates : Simulates (service deployment mode) inbox queue) (tenure : Queue.Tenure queue)
    (distinct : (inbox.table.map InboxMessageRecord.message).Nodup) {worker : W} {query : Query J}
    (asks : inbox.request worker = some (.ask query))
    (kept : query.record.id ∉ (inbox.process worker).evicted) {row : InboxMessageRecord J}
    (stored : row ∈ inbox.table) (same : row.message = query.record.message) :
    row.entry.phase = .processing := by
  obtain ⟨held, _⟩ := simulates.asked asks
  have copied : query.record.entry ∈ inbox.table.map InboxMessageRecord.entry := by
    have listed := tenure.stored worker _ (simulates.mem_held held)
      ((simulates.follows worker).evicted.symm ▸ kept)
    exact simulates.entries ▸ listed
  obtain ⟨copy, copyStored, viewed⟩ := List.mem_map.mp copied
  obtain rfl : copy = row := by
    apply List.inj_on_of_nodup_map distinct copyStored stored
    rw [same]
    exact message_of_card (congrArg Queue.Entry.card viewed)
  rw [viewed]
  exact ((simulates.sound.sessions worker).held_lent _ (simulates.mem_held held)).1

/-- A row after a step, of a message that was there, has the card that it had. -/
theorem card_of_message {inbox later : State W J} {queue : Worker.QueueState W (Content J)}
    {label : Label W J} (simulates : Simulates (service deployment mode) inbox queue)
    (stepped : Worker.step (service deployment mode) inbox label = some later)
    (distinct : (later.table.map InboxMessageRecord.message).Nodup)
    {before row : InboxMessageRecord J} (stored : before ∈ inbox.table)
    (present : row ∈ later.table) (same : before.message = row.message) :
    before.entry.card = row.entry.card := by
  obtain ⟨kept, keptStored, card, _⟩ :=
    simulates.rows_kept (Machine.path_single label trivial stepped) stored
  obtain rfl : kept = row := by
    apply List.inj_on_of_nodup_map distinct keptStored present
    rw [← same]
    exact message_of_card card
  exact card.symm

theorem Sequenced.step (sequenced : Sequenced deployment mode state)
    (sound : Sound deployment mode state)
    (distinct : (state.inbox.table.map InboxMessageRecord.message).Nodup)
    (distinctAfter : (after.inbox.table.map InboxMessageRecord.message).Nodup)
    (asked : ∀ worker query, state.inbox.request worker = some (.ask query) →
      Foremost (service deployment mode) state.inbox.table query.record)
    (inTurn : InTurn (service deployment mode) state.inbox deed.label)
    (dutiful : Dutiful deployment mode state deed)
    (stepped : step deployment mode state deed = some after) :
    Sequenced deployment mode after := by
  obtain ⟨queue, simulates, orderly⟩ := sound.orderly
  have worked := inbox_step stepped
  have earlier : ∀ row ∈ after.inbox.table, row.message ∈ state.applied →
      ∃ before ∈ state.inbox.table, before.message = row.message ∧
        before.entry.card = row.entry.card ∧
        Foremost (service deployment mode) state.inbox.table row := by
    intro row present applied
    obtain ⟨before, stored, same⟩ := sound.known row.message applied
    have card := card_of_message simulates worked distinctAfter stored present same
    exact ⟨before, stored, same, card,
      Worker.foremost_congr card (sequenced.foremost before stored (same ▸ applied))⟩
  -- Nothing is added before a row whose effect is committed.
  have before : ∀ older ∈ after.inbox.table, ∀ row ∈ after.inbox.table,
      row.message ∈ state.applied → older.Precedes row → older ∈ state.inbox.table := by
    intro older olderPresent row present applied precedes
    obtain ⟨known, stored, _, card, foremost⟩ := earlier row present applied
    exact simulates.older_kept orderly inTurn worked ⟨known, stored, card⟩ foremost olderPresent
      precedes
  have foremost : ∀ row ∈ after.inbox.table, row.message ∈ state.applied →
      Foremost (service deployment mode) after.inbox.table row := by
    intro row present applied
    obtain ⟨known, stored, _, card, foremost⟩ := earlier row present applied
    exact simulates.foremost_kept orderly inTurn worked ⟨known, stored, card⟩ foremost
  have inOrder : state.applied.Pairwise fun later earlier =>
      ∀ older ∈ after.inbox.table, ∀ row ∈ after.inbox.table,
        older.message = later → row.message = earlier → ¬older.Precedes row := by
    apply List.Pairwise.imp_of_mem _ sequenced.inOrder
    rintro later message _ applied apart older olderPresent row present olderNamed rfl precedes
    obtain ⟨known, stored, same, card, _⟩ := earlier row present applied
    exact apart older (before older olderPresent row present applied precedes) known stored
      olderNamed same (by rwa [InboxMessageRecord.Precedes, card])
  rcases applied_step stepped with ⟨worker, context, record, acts, asks, added⟩ | same
  · have kept := dutiful.kept simulates orderly acts asks
    obtain ⟨held, heldStored, heldCard⟩ := simulates.held_stored (simulates.asked asks).1
    constructor
    · intro row present applied
      rw [added] at applied
      rcases List.mem_cons.mp applied with named | listed
      · have card := card_of_message simulates worked distinctAfter heldStored present
          ((message_of_card heldCard).trans named.symm)
        exact simulates.foremost_kept orderly inTurn worked ⟨held, heldStored, card⟩
          (Worker.foremost_congr (heldCard.symm.trans card) (asked worker _ asks))
      · exact foremost row present listed
    · rw [added]
      refine .cons ?_ inOrder
      rintro message applied older olderPresent row present olderNamed rfl precedes
      have olderStored := before older olderPresent row present applied precedes
      obtain ⟨_, _, _, _, foremost⟩ := earlier row present applied
      have processing := processing_of_kept simulates orderly.tenure distinct asks kept olderStored
        olderNamed
      have terminal := foremost older olderStored precedes
      rw [show (service deployment mode).entry older = older.entry from rfl, processing] at terminal
      cases terminal
  · exact ⟨same ▸ foremost, same ▸ inOrder⟩

end Effects

end Pactix.Inbox
