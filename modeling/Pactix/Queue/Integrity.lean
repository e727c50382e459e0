import Pactix.Queue.Core

/-!
# Integrity of a leased queue

Facts that hold in every reachable state, whatever the clocks show and however
late a verdict is recorded: cards are append-only, exactly the lent entries carry
a lease, and everything a worker holds is a lent copy of a known entry.
-/

namespace Pactix.Queue

open Foundation

variable {Id Key Time Body Worker : Type}

/-- The cards of all entries, in the order they were appended. -/
def State.cards (state : State Worker Id Key Time Body) : List (Card Id Key Time Body) :=
  state.entries.map Entry.card

/-- Exactly the entries in processing carry a lease. -/
def Entry.WellLeased (entry : Entry Id Key Time Body) : Prop :=
  entry.phase = .processing ↔ entry.lease.isSome = true

namespace Entry

theorem Fresh.wellLeased {entry : Entry Id Key Time Body} (fresh : entry.Fresh) :
    entry.WellLeased := by
  simp [WellLeased, fresh.pending, fresh.lease]

theorem wellLeased_release (now : Time) (entry : Entry Id Key Time Body) :
    (entry.release now).WellLeased := by
  simp [WellLeased, release]

theorem wellLeased_take (lease now : Time) (entry : Entry Id Key Time Body) :
    (entry.take lease now).WellLeased := by
  simp [WellLeased, take]

theorem wellLeased_settle (verdict : Verdict) (attempts ceiling : Int)
    (due now : Time) (entry : Entry Id Key Time Body) :
    (entry.settle verdict attempts ceiling due now).WellLeased := by
  simp [WellLeased, settle_phase_ne]

end Entry

/-- What holds of one worker's session, relative to the known cards and the
verdicts given so far. -/
structure SessionIntegrity (cards : List (Card Id Key Time Body))
    (verdicts : List (Entry Id Key Time Body × Verdict))
    (session : Session Id Key Time Body) : Prop where
  held_nodup : (session.held.map fun entry => entry.card.id).Nodup
  held_lent : ∀ entry ∈ session.held,
    entry.phase = .processing ∧ entry.lease.isSome = true
  held_known : ∀ entry ∈ session.held, entry.card ∈ cards
  decided_head : ∀ entry verdict, session.decided = some (entry, verdict) →
    session.held.head? = some entry ∧ (entry, verdict) ∈ verdicts

namespace SessionIntegrity

theorem empty (cards : List (Card Id Key Time Body))
    (verdicts : List (Entry Id Key Time Body × Verdict)) :
    SessionIntegrity cards verdicts {} where
  held_nodup := by simp
  held_lent := by simp
  held_known := by simp
  decided_head := by simp

/-- A session stays sound when cards and verdicts are added. -/
theorem mono {cards moreCards : List (Card Id Key Time Body)}
    {verdicts moreVerdicts : List (Entry Id Key Time Body × Verdict)}
    {session : Session Id Key Time Body}
    (sound : SessionIntegrity cards verdicts session)
    (cardsSubset : cards ⊆ moreCards) (verdictsSubset : verdicts ⊆ moreVerdicts) :
    SessionIntegrity moreCards moreVerdicts session where
  held_nodup := sound.held_nodup
  held_lent := sound.held_lent
  held_known := fun entry membership => cardsSubset (sound.held_known entry membership)
  decided_head := fun entry verdict decided =>
    let ⟨head, given⟩ := sound.decided_head entry verdict decided
    ⟨head, verdictsSubset given⟩

end SessionIntegrity

/-- The invariant of every reachable state. -/
structure Integrity (state : State Worker Id Key Time Body) : Prop where
  ids_nodup : (state.cards.map Card.id).Nodup
  leased : ∀ entry ∈ state.entries, entry.WellLeased
  sessions : ∀ worker,
    SessionIntegrity state.cards state.verdicts (state.session worker)

namespace Integrity

/-- An empty queue with idle workers. -/
theorem initial (clock : Time) :
    Integrity (State.initial clock : State Worker Id Key Time Body) where
  ids_nodup := by simp [State.cards, State.initial]
  leased := by simp [State.initial]
  sessions := fun _ => SessionIntegrity.empty _ _

/-- Entries that nobody works on. -/
theorem idle (clock : Time) {entries : List (Entry Id Key Time Body)}
    (distinct : (entries.map fun entry => entry.card.id).Nodup)
    (leased : ∀ entry ∈ entries, entry.WellLeased) :
    Integrity ({ State.initial clock with entries } : State Worker Id Key Time Body) where
  ids_nodup := by simpa [State.cards, Function.comp_def] using distinct
  leased := leased
  sessions := fun _ => SessionIntegrity.empty _ _

/-- Stored entries with the same id are the same entry. -/
theorem entry_unique {state : State Worker Id Key Time Body}
    (sound : Integrity state) {left right : Entry Id Key Time Body}
    (leftMem : left ∈ state.entries) (rightMem : right ∈ state.entries)
    (sameId : left.card.id = right.card.id) : left = right := by
  have distinct : (state.entries.map fun entry => entry.card.id).Nodup := by
    simpa [State.cards, Function.comp_def] using sound.ids_nodup
  exact List.inj_on_of_nodup_map distinct leftMem rightMem sameId

/-- A stored entry with the id of a held one has its card. -/
theorem card_of_held {state : State Worker Id Key Time Body}
    (sound : Integrity state) {worker : Worker} {stored held : Entry Id Key Time Body}
    (storedMem : stored ∈ state.entries)
    (heldMem : held ∈ (state.session worker).held)
    (sameId : stored.card.id = held.card.id) : stored.card = held.card := by
  have known := (sound.sessions worker).held_known held heldMem
  simp only [State.cards, List.mem_map] at known
  obtain ⟨origin, originMem, originCard⟩ := known
  have same := sound.entry_unique storedMem originMem (by rw [originCard, sameId])
  rw [same, originCard]

end Integrity

section Cards

theorem cards_lend (chosen : Id → Bool) (lease now : Time)
    (entries : List (Entry Id Key Time Body)) :
    (lend chosen lease now entries).map Entry.card = entries.map Entry.card :=
  map_updateWhere_fixed (fun entry => Entry.card_take lease now entry) entries

theorem cards_record (condition : Entry Id Key Time Body → Bool)
    (verdict : Verdict) (attempts ceiling : Int) (due now : Time)
    (entries : List (Entry Id Key Time Body)) :
    (updateWhere condition (Entry.settle verdict attempts ceiling due now)
      entries).map Entry.card = entries.map Entry.card :=
  map_updateWhere_fixed
    (fun entry => Entry.card_settle verdict attempts ceiling due now entry) entries

variable [LinearOrder Time]

theorem cards_sweep (now : Time) (entries : List (Entry Id Key Time Body)) :
    (sweep now entries).map Entry.card = entries.map Entry.card :=
  map_updateWhere_fixed (fun entry => Entry.card_release now entry) entries

/-- The batch that a claim lends consists of entries stored after it. -/
theorem Lends.mem_lend {fifo : Bool} {now lease : Time}
    {entries batch : List (Entry Id Key Time Body)} {chosen : Id → Bool}
    (lends : Lends fifo now lease entries chosen batch)
    {entry : Entry Id Key Time Body} (membership : entry ∈ batch) :
    ∃ swept ∈ sweep now entries, chosen swept.card.id = true ∧
      entry = swept.take lease now ∧
      entry ∈ lend chosen lease now (sweep now entries) := by
  have listed := lends.batch_perm.mem_iff.mp membership
  simp only [List.mem_map, List.mem_filter] at listed
  obtain ⟨swept, ⟨sweptMem, picked⟩, rfl⟩ := listed
  exact ⟨swept, sweptMem, picked, rfl, mem_updateWhere_of sweptMem picked⟩

theorem Lends.nodup {fifo : Bool} {now lease : Time}
    {entries batch : List (Entry Id Key Time Body)} {chosen : Id → Bool}
    (lends : Lends fifo now lease entries chosen batch)
    (distinct : ((entries.map Entry.card).map Card.id).Nodup) :
    (batch.map fun entry => entry.card.id).Nodup := by
  have sweptDistinct :
      ((sweep now entries).map fun entry => entry.card.id).Nodup := by
    rw [← cards_sweep now entries] at distinct
    simpa [Function.comp_def] using distinct
  have listed := (lends.batch_perm.map fun entry => entry.card.id).nodup_iff
  rw [listed, List.map_map]
  exact sweptDistinct.sublist (List.filter_sublist.map _)

end Cards

section Step

variable [DecidableEq Worker] [DecidableEq Id] [LinearOrder Time]

/-- Cards are append-only: an append adds the new card at the end and no other
action touches one. -/
theorem cards_step {before after : State Worker Id Key Time Body}
    {action : Action Worker Id Key Time Body} (step : Step before action after) :
    after.cards = before.cards ∨
      ∃ entry, action = .append entry ∧ entry.Fresh ∧
        entry.card.id ∉ before.cards.map Card.id ∧
        after.cards = before.cards ++ [entry.card] := by
  cases step with
  | append entry fresh unknown =>
      refine .inr ⟨entry, rfl, fresh, ?_, by simp [State.cards]⟩
      simpa [State.cards, Function.comp_def] using unknown
  | start | read | consult | decide => exact .inl rfl
  | claim =>
      exact .inl ((cards_lend _ _ _ _).trans (cards_sweep _ _))
  | record =>
      exact .inl (cards_record _ _ _ _ _ _ _)

theorem cards_subset_step {before after : State Worker Id Key Time Body}
    {action : Action Worker Id Key Time Body} (step : Step before action after) :
    before.cards ⊆ after.cards := by
  rcases cards_step step with same | ⟨entry, _, _, _, appended⟩
  · rw [same]
    exact List.Subset.refl _
  · rw [appended]
    exact List.subset_append_left _ _

/-- Verdicts are never forgotten. -/
theorem verdicts_subset_step {before after : State Worker Id Key Time Body}
    {action : Action Worker Id Key Time Body} (step : Step before action after) :
    before.verdicts ⊆ after.verdicts := by
  cases step with
  | decide => exact List.subset_cons_self _ _
  | append | start | read | claim | consult | record => exact List.Subset.refl _

omit [DecidableEq Id] [LinearOrder Time] in
/-- Changing one session to a sound one keeps all sessions sound. -/
theorem sessions_update {cards : List (Card Id Key Time Body)}
    {verdicts : List (Entry Id Key Time Body × Verdict)}
    {sessions : Worker → Session Id Key Time Body} {worker : Worker}
    {session : Session Id Key Time Body}
    (kept : ∀ other, SessionIntegrity cards verdicts (sessions other))
    (sound : SessionIntegrity cards verdicts session) :
    ∀ other, SessionIntegrity cards verdicts (Function.update sessions worker session other) :=
  (Function.forall_update_iff sessions fun _ => SessionIntegrity cards verdicts).mpr
    ⟨sound, fun other _ => kept other⟩

omit [DecidableEq Id] in
/-- After a claim the worker holds lent entries, and the others what they held. -/
theorem sessions_claim {before : State Worker Id Key Time Body} (sound : Integrity before)
    {cards : List (Card Id Key Time Body)} {worker : Worker} {now lease : Time} {fifo : Bool}
    {chosen : Id → Bool} {batch : List (Entry Id Key Time Body)}
    (lends : Lends fifo now lease before.entries chosen batch)
    (stored : (lend chosen lease now (sweep now before.entries)).map Entry.card = cards)
    (kept : ∀ other, SessionIntegrity cards before.verdicts (before.session other)) :
    ∀ other, SessionIntegrity cards before.verdicts
      (claimSessions before.session worker (evicted now before.entries) batch other) := by
  intro other
  unfold claimSessions
  split
  · constructor
    case held_nodup => exact lends.nodup sound.ids_nodup
    case held_lent =>
      intro entry membership
      obtain ⟨swept, _, _, rfl, _⟩ := lends.mem_lend membership
      exact ⟨rfl, rfl⟩
    case held_known =>
      intro entry membership
      obtain ⟨_, _, _, _, listed⟩ := lends.mem_lend membership
      rw [← stored]
      exact List.mem_map_of_mem listed
    case decided_head => simp
  · exact ⟨(kept other).held_nodup, (kept other).held_lent, (kept other).held_known,
      (kept other).decided_head⟩

/-- Integrity is preserved by every step. -/
theorem Integrity.step {before after : State Worker Id Key Time Body}
    {action : Action Worker Id Key Time Body} (sound : Integrity before)
    (step : Step before action after) : Integrity after := by
  have idsNodup : (after.cards.map Card.id).Nodup := by
    rcases cards_step step with same | ⟨entry, _, _, unknown, appended⟩
    · rw [same]
      exact sound.ids_nodup
    · rw [appended, List.map_append, List.nodup_append]
      refine ⟨sound.ids_nodup, by simp, ?_⟩
      intro id idMem other otherMem
      simp only [List.map_cons, List.map_nil, List.mem_singleton] at otherMem
      rintro rfl
      exact unknown (otherMem ▸ idMem)
  have kept : ∀ worker,
      SessionIntegrity after.cards after.verdicts (before.session worker) :=
    fun worker => (sound.sessions worker).mono (cards_subset_step step)
      (verdicts_subset_step step)
  cases step with
  | append entry fresh unknown =>
      refine ⟨idsNodup, ?_, kept⟩
      intro stored membership
      simp only [List.mem_append, List.mem_singleton] at membership
      rcases membership with earlier | rfl
      · exact sound.leased stored earlier
      · exact fresh.wellLeased
  | start worker => exact ⟨idsNodup, sound.leased, sessions_update kept (.empty _ _)⟩
  | read worker time =>
      have own := kept worker
      exact ⟨idsNodup, sound.leased, sessions_update kept
        ⟨own.held_nodup, own.held_lent, own.held_known, own.decided_head⟩⟩
  | consult worker time => exact ⟨idsNodup, sound.leased, kept⟩
  | claim worker time now lease fifo chosen batch armed lends =>
      refine ⟨idsNodup, ?_, sessions_claim sound lends rfl kept⟩
      exact forall_updateWhere (fun entry _ => entry.wellLeased_take lease now)
        (forall_updateWhere (fun entry _ => entry.wellLeased_release now) sound.leased)
  | decide worker time entry verdict head =>
      have own := kept worker
      refine ⟨idsNodup, sound.leased, sessions_update kept
        ⟨own.held_nodup, own.held_lent, own.held_known, ?_⟩⟩
      intro decidedEntry decidedVerdict decided
      simp only [Option.some.injEq, Prod.mk.injEq] at decided
      obtain ⟨rfl, rfl⟩ := decided
      simpa using head
  | record worker time due entry rest verdict held decided =>
      refine ⟨idsNodup, ?_, sessions_update kept ?_⟩
      · exact forall_updateWhere
          (fun stored _ => stored.wellLeased_settle verdict _ _ due time) sound.leased
      · have own := kept worker
        have heldNodup := own.held_nodup
        have heldLent := own.held_lent
        have heldKnown := own.held_known
        rw [held] at heldNodup heldLent heldKnown
        constructor
        case held_nodup => exact heldNodup.tail
        case held_lent =>
          exact fun item membership => heldLent item (List.mem_cons_of_mem entry membership)
        case held_known =>
          exact fun item membership => heldKnown item (List.mem_cons_of_mem entry membership)
        case decided_head => simp

end Step

end Pactix.Queue
