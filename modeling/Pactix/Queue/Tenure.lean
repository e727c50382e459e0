import Mathlib.Logic.Relation
import Pactix.Queue.Integrity

/-!
# Tenure

A worker has tenure of an entry it holds until the entry is taken back from it.
While verdicts are recorded only with tenure, an entry held with tenure is stored
exactly as it was lent, by one worker only, and terminal entries stay as they
are.  With one clock that never goes back, recording before the end of the lease
is enough: what has been taken back had a lease that is over.
-/

namespace Pactix.Queue

open Foundation

variable {Id Key Time Body Worker : Type}

/-- What workers hold and have not lost. -/
structure Tenure (state : State Worker Id Key Time Body) : Prop where
  stored : ∀ worker, ∀ entry ∈ (state.session worker).held,
    entry.card.id ∉ (state.session worker).evicted → entry ∈ state.entries
  exclusive : ∀ left right,
    ∀ leftEntry ∈ (state.session left).held,
    ∀ rightEntry ∈ (state.session right).held,
      leftEntry.card.id = rightEntry.card.id →
      leftEntry.card.id ∉ (state.session left).evicted →
      rightEntry.card.id ∉ (state.session right).evicted → left = right

namespace Tenure

theorem initial (clock : Time) :
    Tenure (State.initial clock : State Worker Id Key Time Body) where
  stored := by simp [State.initial]
  exclusive := by simp [State.initial]

/-- The session holds no more with tenure than the other one. -/
def Within (session other : Session Id Key Time Body) : Prop :=
  ∀ entry ∈ session.held, entry ∈ other.held ∧
    (entry.card.id ∉ session.evicted → entry.card.id ∉ other.evicted)

/-- Tenure stays while nobody holds more than before and nothing held is changed. -/
theorem of_within {before after : State Worker Id Key Time Body} (tenure : Tenure before)
    (entries : ∀ worker, ∀ entry ∈ (after.session worker).held,
      entry.card.id ∉ (after.session worker).evicted →
      entry ∈ before.entries → entry ∈ after.entries)
    (within : ∀ worker, Within (after.session worker) (before.session worker)) :
    Tenure after where
  stored := by
    intro worker entry held kept
    obtain ⟨heldBefore, keptBefore⟩ := within worker entry held
    exact entries worker entry held kept (tenure.stored worker entry heldBefore (keptBefore kept))
  exclusive := by
    intro left right leftEntry leftMem rightEntry rightMem sameId leftKept rightKept
    obtain ⟨leftHeld, leftBefore⟩ := within left leftEntry leftMem
    obtain ⟨rightHeld, rightBefore⟩ := within right rightEntry rightMem
    exact tenure.exclusive left right leftEntry leftHeld rightEntry rightHeld sameId
      (leftBefore leftKept) (rightBefore rightKept)

theorem within_refl (session : Session Id Key Time Body) : Within session session :=
  fun _ held => ⟨held, id⟩

theorem within_update [DecidableEq Worker] {sessions : Worker → Session Id Key Time Body}
    {worker : Worker} {session : Session Id Key Time Body}
    (within : Within session (sessions worker)) :
    ∀ other, Within (Function.update sessions worker session other) (sessions other) :=
  (Function.forall_update_iff sessions fun other session => Within session (sessions other)).mpr
    ⟨within, fun other _ => within_refl (sessions other)⟩

end Tenure

section Step

variable [DecidableEq Worker] [DecidableEq Id] [LinearOrder Time]

omit [DecidableEq Id] in
/-- An entry that is neither expired nor in the pending phase goes through a
claim unchanged. -/
theorem mem_claim_of_not_pending {fifo : Bool} {now lease : Time}
    {entries batch : List (Entry Id Key Time Body)} {chosen : Id → Bool}
    (lends : Lends fifo now lease entries chosen batch)
    {entry : Entry Id Key Time Body} (membership : entry ∈ entries)
    (notExpired : entry.expired now = false) (notPending : entry.phase ≠ .pending) :
    entry ∈ sweep now entries ∧ chosen entry.card.id = false ∧
      entry ∈ lend chosen lease now (sweep now entries) := by
  have swept : entry ∈ sweep now entries := mem_updateWhere_of_not membership notExpired
  have notChosen : chosen entry.card.id = false := by
    by_contra picked
    exact notPending (lends.ready entry swept (by simpa using picked)).pending
  exact ⟨swept, notChosen, mem_updateWhere_of_not swept notChosen⟩

omit [DecidableEq Worker] [DecidableEq Id] in
/-- An entry held with tenure goes through another worker's claim unchanged,
unless that claim takes it back. -/
theorem Tenure.mem_claim {state : State Worker Id Key Time Body}
    (sound : Integrity state) (tenure : Tenure state)
    {fifo : Bool} {now lease : Time} {batch : List (Entry Id Key Time Body)}
    {chosen : Id → Bool}
    (lends : Lends fifo now lease state.entries chosen batch)
    {worker : Worker} {entry : Entry Id Key Time Body}
    (held : entry ∈ (state.session worker).held)
    (kept : entry.card.id ∉
      (state.session worker).evicted ++ evicted now state.entries) :
    entry ∈ sweep now state.entries ∧ chosen entry.card.id = false ∧
      entry ∈ lend chosen lease now (sweep now state.entries) := by
  simp only [List.mem_append, not_or] at kept
  have stored := tenure.stored worker entry held kept.1
  have lent := ((sound.sessions worker).held_lent entry held).1
  apply mem_claim_of_not_pending lends stored
  · by_contra isExpired
    apply kept.2
    simp only [evicted, List.mem_map, List.mem_filter]
    exact ⟨entry, ⟨stored, by simpa using isExpired⟩, rfl⟩
  · simp [lent]

/-- Tenure is preserved when verdicts are recorded with tenure only. -/
theorem Tenure.step {before after : State Worker Id Key Time Body}
    {action : Action Worker Id Key Time Body} (sound : Integrity before)
    (tenure : Tenure before) (current : Current before action)
    (step : Step before action after) : Tenure after := by
  cases step with
  | append entry fresh unknown =>
      exact tenure.of_within (fun _ _ _ _ => List.mem_append_left _) fun _ => within_refl _
  | consult worker time => exact tenure.of_within (fun _ _ _ _ => id) fun _ => within_refl _
  | read worker time =>
      exact tenure.of_within (fun _ _ _ _ => id) (within_update fun _ held => ⟨held, id⟩)
  | decide worker time entry verdict head =>
      exact tenure.of_within (fun _ _ _ _ => id) (within_update fun _ held => ⟨held, id⟩)
  | start worker =>
      exact tenure.of_within (fun _ _ _ _ => id) (within_update (by simp [Within]))
  | claim worker time now lease fifo chosen batch armed lends =>
      -- A freshly lent entry was pending; one held with tenure is not.
      have apart : ∀ other, other ≠ worker → ∀ lent ∈ batch,
          ∀ entry ∈ (before.session other).held, lent.card.id = entry.card.id →
          entry.card.id ∉
            (before.session other).evicted ++ evicted now before.entries → False := by
        intro other _ lent lentMem entry entryMem sameId kept
        obtain ⟨swept, _, picked, rfl, _⟩ := lends.mem_lend lentMem
        obtain ⟨_, notChosen, _⟩ := tenure.mem_claim sound lends entryMem kept
        simp only [Entry.card_take] at sameId
        rw [sameId, notChosen] at picked
        simp at picked
      constructor
      · intro other entry membership kept
        by_cases same : other = worker
        · subst same
          simp only [claimSessions, ↓reduceIte] at membership
          exact (lends.mem_lend membership).choose_spec.2.2.2
        · simp only [claimSessions, same, ↓reduceIte] at membership kept
          exact (tenure.mem_claim sound lends membership kept).2.2
      · intro left right leftEntry leftMem rightEntry rightMem sameId leftKept rightKept
        by_cases sameLeft : left = worker <;> by_cases sameRight : right = worker
        · rw [sameLeft, sameRight]
        · exfalso
          simp only [claimSessions, sameLeft, sameRight, ↓reduceIte] at leftMem rightMem rightKept
          exact apart right sameRight leftEntry leftMem rightEntry rightMem sameId rightKept
        · exfalso
          simp only [claimSessions, sameLeft, sameRight, ↓reduceIte] at leftMem leftKept rightMem
          exact apart left sameLeft rightEntry rightMem leftEntry leftMem sameId.symm leftKept
        · simp only [claimSessions, sameLeft, sameRight, ↓reduceIte, List.mem_append,
            not_or] at leftMem leftKept rightMem rightKept
          exact tenure.exclusive left right leftEntry leftMem rightEntry rightMem
            sameId leftKept.1 rightKept.1
  | record worker time due entry rest verdict held decided =>
      have entryMem : entry ∈ (before.session worker).held := by simp [held]
      have entryKept := current worker time due rfl entry verdict decided
      have heldNodup := (sound.sessions worker).held_nodup
      rw [held, List.map_cons, List.nodup_cons] at heldNodup
      refine tenure.of_within ?_ (within_update fun item membership =>
        ⟨held ▸ List.mem_cons_of_mem entry membership, id⟩)
      intro other item membership kept stored
      apply mem_updateWhere_of_not stored
      rw [decide_eq_false_iff_not]
      intro sameId
      -- The recorded entry is held with tenure by nobody after the step.
      by_cases same : other = worker
      · subst same
        simp only [Function.update_self] at membership
        exact heldNodup.1 (sameId ▸ List.mem_map_of_mem membership)
      · simp only [Function.update_of_ne same] at membership kept
        exact same (tenure.exclusive other worker item membership entry entryMem sameId kept
          entryKept)

omit [DecidableEq Worker] [DecidableEq Id] [LinearOrder Time] in
/-- With tenure, a verdict meets its entry exactly as it was lent. -/
theorem Tenure.record_meets {state : State Worker Id Key Time Body}
    (sound : Integrity state) (tenure : Tenure state)
    {worker : Worker} {time due : Time} (current : Current state (.record worker time due))
    {entry : Entry Id Key Time Body} {verdict : Verdict}
    (decided : (state.session worker).decided = some (entry, verdict)) :
    entry ∈ state.entries ∧ entry.phase = .processing ∧
      ∀ stored ∈ state.entries, stored.card.id = entry.card.id → stored = entry := by
  have head := ((sound.sessions worker).decided_head entry verdict decided).1
  have held : entry ∈ (state.session worker).held := List.mem_of_head? head
  have stored := tenure.stored worker entry held (current worker time due rfl entry verdict decided)
  exact ⟨stored, ((sound.sessions worker).held_lent entry held).1,
    fun other otherMem sameId => sound.entry_unique otherMem stored sameId⟩

/-- A terminal entry is changed by no step, late verdicts excepted. -/
theorem terminal_step {before after : State Worker Id Key Time Body}
    {action : Action Worker Id Key Time Body} (sound : Integrity before)
    (tenure : Tenure before) (current : Current before action)
    (step : Step before action after)
    {entry : Entry Id Key Time Body} (membership : entry ∈ before.entries)
    (terminal : entry.phase.terminal = true) : entry ∈ after.entries := by
  cases step with
  | append => exact List.mem_append_left _ membership
  | start | read | consult | decide => exact membership
  | claim worker time now lease fifo chosen batch armed lends =>
      have notProcessing : entry.phase ≠ .processing := by
        intro processing
        simp [processing, Phase.terminal] at terminal
      have notPending : entry.phase ≠ .pending := by
        intro pending
        simp [pending, Phase.terminal] at terminal
      exact (mem_claim_of_not_pending lends membership
        (by simp [Entry.expired, notProcessing]) notPending).2.2
  | record worker time due recorded rest verdict held decided =>
      obtain ⟨_, processing, unique⟩ := tenure.record_meets sound current decided
      apply mem_updateWhere_of_not membership
      simp only [decide_eq_false_iff_not]
      intro sameId
      rw [unique entry membership sameId, processing] at terminal
      simp [Phase.terminal] at terminal

/-! ## Clocks and leases -/

/-- Readings are not from the future, and what a worker has lost had a lease that
is over. -/
structure Punctual (state : State Worker Id Key Time Body) : Prop where
  reading_le : ∀ worker time, (state.session worker).reading = some time →
    time ≤ state.clock
  evicted_late : ∀ worker, ∀ entry ∈ (state.session worker).held,
    entry.card.id ∈ (state.session worker).evicted →
    ∃ lease, entry.lease = some lease ∧ lease < state.clock

omit [DecidableEq Worker] [DecidableEq Id] in
theorem Punctual.initial (clock : Time) :
    Punctual (State.initial clock : State Worker Id Key Time Body) where
  reading_le := by simp [State.initial]
  evicted_late := by simp [State.initial]

omit [DecidableEq Worker] [DecidableEq Id] in
/-- Under one clock, recording before the end of the lease is recording with
tenure. -/
theorem Punctual.current {state : State Worker Id Key Time Body}
    {action : Action Worker Id Key Time Body} (sound : Integrity state)
    (punctual : Punctual state) (clocked : Clocked state action)
    (timely : Timely state action) : Current state action := by
  rintro worker time due rfl entry verdict decided lost
  have head := ((sound.sessions worker).decided_head entry verdict decided).1
  obtain ⟨lease, leased, ended⟩ :=
    punctual.evicted_late worker entry (List.mem_of_head? head) lost
  obtain ⟨sameLease, sameLeased, inTime⟩ :=
    timely worker time due rfl entry verdict decided
  obtain rfl : lease = sameLease := by
    rw [leased] at sameLeased
    exact Option.some.inj sameLeased
  exact absurd (clocked time rfl) (not_le.mpr (lt_of_le_of_lt inTime ended))

/-- What punctuality says of one session at a time. -/
structure Session.Punctual (clock : Time) (session : Session Id Key Time Body) : Prop where
  reading_le : ∀ time, session.reading = some time → time ≤ clock
  evicted_late : ∀ entry ∈ session.held, entry.card.id ∈ session.evicted →
    ∃ lease, entry.lease = some lease ∧ lease < clock

namespace Punctual

omit [DecidableEq Id] [DecidableEq Worker]

theorem session {state : State Worker Id Key Time Body} (punctual : Punctual state)
    (worker : Worker) : (state.session worker).Punctual state.clock :=
  ⟨punctual.reading_le worker, punctual.evicted_late worker⟩

theorem of_sessions {state : State Worker Id Key Time Body}
    (each : ∀ worker, (state.session worker).Punctual state.clock) : Punctual state :=
  ⟨fun worker => (each worker).reading_le, fun worker => (each worker).evicted_late⟩

/-- Nothing becomes unpunctual while time passes. -/
theorem later {state : State Worker Id Key Time Body} (punctual : Punctual state) {time : Time}
    (forward : state.clock ≤ time) (worker : Worker) : (state.session worker).Punctual time where
  reading_le := fun shown reading => (punctual.reading_le worker shown reading).trans forward
  evicted_late := fun entry held lost =>
    let ⟨lease, leased, ended⟩ := punctual.evicted_late worker entry held lost
    ⟨lease, leased, ended.trans_le forward⟩

end Punctual

omit [DecidableEq Id] in
/-- Changing one session to a punctual one keeps all sessions punctual. -/
theorem Session.Punctual.update {sessions : Worker → Session Id Key Time Body}
    {clock : Time} {worker : Worker} {session : Session Id Key Time Body}
    (kept : ∀ other, (sessions other).Punctual clock) (punctual : session.Punctual clock) :
    ∀ other, (Function.update sessions worker session other).Punctual clock :=
  (Function.forall_update_iff sessions fun _ => Session.Punctual clock).mpr
    ⟨punctual, fun other _ => kept other⟩

omit [DecidableEq Id] in
/-- What a claim has taken back from others had a lease that was over. -/
theorem Punctual.claim {state : State Worker Id Key Time Body} (sound : Integrity state)
    (tenure : Tenure state) (punctual : Punctual state) {worker : Worker} {time now : Time}
    (armed : (state.session worker).reading = some now) (forward : state.clock ≤ time)
    (batch : List (Entry Id Key Time Body)) :
    ∀ other, (claimSessions state.session worker (evicted now state.entries) batch
      other).Punctual time := by
  have nowLe : now ≤ time := (punctual.reading_le worker now armed).trans forward
  have kept := punctual.later forward
  intro other
  unfold claimSessions
  split
  · exact ⟨(kept worker).reading_le, by simp⟩
  · refine ⟨(kept other).reading_le, ?_⟩
    intro entry held lost
    by_cases lostBefore : entry.card.id ∈ (state.session other).evicted
    · exact (kept other).evicted_late entry held lostBefore
    · have swept := (List.mem_append.mp lost).resolve_left lostBefore
      simp only [evicted, List.mem_map, List.mem_filter] at swept
      obtain ⟨stored, ⟨storedMem, isExpired⟩, sameId⟩ := swept
      have entryMem := tenure.stored other entry held lostBefore
      have unique := sound.entry_unique storedMem entryMem sameId
      rw [unique] at isExpired
      obtain ⟨_, limit, leased, past⟩ := Entry.expired_eq_true.mp isExpired
      exact ⟨limit, leased, past.trans_le nowLe⟩

/-- Punctuality is preserved under one clock. -/
theorem Punctual.step {before after : State Worker Id Key Time Body}
    {action : Action Worker Id Key Time Body} (sound : Integrity before)
    (tenure : Tenure before) (punctual : Punctual before)
    (clocked : Clocked before action) (step : Step before action after) :
    Punctual after := by
  cases step with
  | append entry fresh unknown => exact ⟨punctual.reading_le, punctual.evicted_late⟩
  | start worker => exact .of_sessions (.update punctual.session ⟨by simp, by simp⟩)
  | read worker time =>
      have kept := punctual.later (clocked time rfl)
      refine .of_sessions (.update kept ⟨?_, (kept worker).evicted_late⟩)
      intro shown reading
      exact (Option.some.inj reading).ge
  | consult worker time => exact .of_sessions (punctual.later (clocked time rfl))
  | claim worker time now lease fifo chosen batch armed lends =>
      exact .of_sessions (punctual.claim sound tenure armed (clocked time rfl) batch)
  | decide worker time entry verdict head =>
      have kept := punctual.later (clocked time rfl)
      exact .of_sessions (.update kept ⟨(kept worker).reading_le, (kept worker).evicted_late⟩)
  | record worker time due entry rest verdict held decided =>
      have kept := punctual.later (clocked time rfl)
      refine .of_sessions (.update kept ⟨(kept worker).reading_le, ?_⟩)
      intro item itemHeld
      have heldBefore : item ∈ (before.session worker).held :=
        held ▸ List.mem_cons_of_mem entry itemHeld
      exact (kept worker).evicted_late item heldBefore

/-- Everything that holds under one clock and timely records. -/
structure Orderly (state : State Worker Id Key Time Body) : Prop where
  sound : Integrity state
  tenure : Tenure state
  punctual : Punctual state

namespace Orderly

omit [DecidableEq Worker] [DecidableEq Id] in
theorem initial (clock : Time) :
    Orderly (State.initial clock : State Worker Id Key Time Body) :=
  ⟨.initial clock, .initial clock, .initial clock⟩

omit [DecidableEq Worker] [DecidableEq Id] in
/-- Entries that nobody works on. -/
theorem idle (clock : Time) {entries : List (Entry Id Key Time Body)}
    (distinct : (entries.map fun entry => entry.card.id).Nodup)
    (leased : ∀ entry ∈ entries, entry.WellLeased) :
    Orderly ({ State.initial clock with entries } : State Worker Id Key Time Body) where
  sound := .idle clock distinct leased
  tenure := ⟨by simp [State.initial], by simp [State.initial]⟩
  punctual := ⟨by simp [State.initial], by simp [State.initial]⟩

theorem step {before after : State Worker Id Key Time Body}
    {action : Action Worker Id Key Time Body} (orderly : Orderly before)
    (clocked : Clocked before action) (timely : Timely before action)
    (step : Step before action after) : Orderly after where
  sound := orderly.sound.step step
  tenure := orderly.tenure.step orderly.sound
    (orderly.punctual.current orderly.sound clocked timely) step
  punctual := orderly.punctual.step orderly.sound orderly.tenure clocked step

omit [DecidableEq Worker] [DecidableEq Id] in
/-- What is held under a running lease has not been taken back. -/
theorem kept {state : State Worker Id Key Time Body} (orderly : Orderly state)
    {worker : Worker} {entry : Entry Id Key Time Body} {lease : Time}
    (held : entry ∈ (state.session worker).held) (leased : entry.lease = some lease)
    (running : state.clock ≤ lease) : entry.card.id ∉ (state.session worker).evicted := by
  intro lost
  obtain ⟨limit, limitLeased, past⟩ :=
    orderly.punctual.evicted_late worker entry held lost
  rw [leased, Option.some.injEq] at limitLeased
  exact absurd (limitLeased ▸ running) (not_le.mpr past)

omit [DecidableEq Worker] [DecidableEq Id] in
/-- What is held under a running lease is stored as it was lent. -/
theorem stored {state : State Worker Id Key Time Body} (orderly : Orderly state)
    {worker : Worker} {entry : Entry Id Key Time Body} {lease : Time}
    (held : entry ∈ (state.session worker).held) (leased : entry.lease = some lease)
    (running : state.clock ≤ lease) : entry ∈ state.entries :=
  orderly.tenure.stored worker entry held (orderly.kept held leased running)

omit [DecidableEq Worker] [DecidableEq Id] in
/-- Two workers never hold the same entry under leases that are both running. -/
theorem exclusive {state : State Worker Id Key Time Body} (orderly : Orderly state)
    {left right : Worker} {leftEntry rightEntry : Entry Id Key Time Body}
    {leftLease rightLease : Time}
    (leftHeld : leftEntry ∈ (state.session left).held)
    (rightHeld : rightEntry ∈ (state.session right).held)
    (sameId : leftEntry.card.id = rightEntry.card.id)
    (leftLeased : leftEntry.lease = some leftLease)
    (rightLeased : rightEntry.lease = some rightLease)
    (leftRunning : state.clock ≤ leftLease) (rightRunning : state.clock ≤ rightLease) :
    left = right :=
  orderly.tenure.exclusive left right leftEntry leftHeld rightEntry rightHeld sameId
    (orderly.kept leftHeld leftLeased leftRunning)
    (orderly.kept rightHeld rightLeased rightRunning)

end Orderly

end Step

end Pactix.Queue
