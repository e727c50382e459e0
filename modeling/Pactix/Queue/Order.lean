import Pactix.Queue.Tenure

/-!
# Order within a group

Entries of one group are lent in the order of their stamps.  The gate only looks
at the entries that are stored when a batch is lent, so what holds depends on
how producers place their entries; two disciplines are considered, one after the
other for each group (`Serial`), and the weaker one that only rules out ties
between open entries and arrivals behind an entry in processing (`Placed`).
-/

namespace Pactix.Queue

open Foundation

variable {Id Key Time Body Worker : Type} [LinearOrder Time]

/-- An earlier entry of the same group. -/
def Card.Older (older newer : Card Id Key Time Body) : Prop :=
  newer.key ≠ none ∧ older.key = newer.key ∧ older.stamp < newer.stamp

/-- New entries of a group carry larger stamps than the stored ones. -/
def Serial (state : State Worker Id Key Time Body)
    (action : Action Worker Id Key Time Body) : Prop :=
  ∀ entry, action = .append entry → entry.card.key ≠ none →
    ∀ stored ∈ state.entries, stored.card.key = entry.card.key →
      stored.card.stamp < entry.card.stamp

/-- A new entry ties with no open entry of its group, and comes before none that
is in processing. -/
def Placed (state : State Worker Id Key Time Body)
    (action : Action Worker Id Key Time Body) : Prop :=
  ∀ entry, action = .append entry → entry.card.key ≠ none →
    ∀ stored ∈ state.entries, stored.card.key = entry.card.key →
      (stored.phase.terminal = false → stored.card.stamp ≠ entry.card.stamp) ∧
        (stored.phase = .processing → stored.card.stamp ≤ entry.card.stamp)

theorem Serial.placed {state : State Worker Id Key Time Body}
    {action : Action Worker Id Key Time Body} (serial : Serial state action) :
    Placed state action := by
  intro entry appended grouped stored storedMem sameKey
  have before := serial entry appended grouped stored storedMem sameKey
  exact ⟨fun _ => before.ne, fun _ => before.le⟩

/-- Only the oldest open entry of a group is in processing. -/
structure Exclusive (state : State Worker Id Key Time Body) : Prop where
  processing_last : ∀ entry ∈ state.entries, entry.phase = .processing →
    ∀ older ∈ state.entries, older.card.Older entry.card → older.phase.terminal = true
  open_distinct : ∀ left ∈ state.entries, ∀ right ∈ state.entries,
    left.card.key ≠ none → left.card.key = right.card.key →
    left.card.stamp = right.card.stamp →
    left.phase.terminal = false → right.phase.terminal = false → left = right

/-- Nothing of a group is lent or finished while an older entry is open, and this
is also true of the copies that workers hold. -/
structure Ordered (state : State Worker Id Key Time Body) : Prop where
  started_last : ∀ entry ∈ state.entries, entry.phase ≠ .pending →
    ∀ older ∈ state.entries, older.card.Older entry.card → older.phase.terminal = true
  held_last : ∀ worker, ∀ entry ∈ (state.session worker).held,
    ∀ older ∈ state.entries, older.card.Older entry.card → older.phase.terminal = true

theorem Exclusive.initial (clock : Time) :
    Exclusive (State.initial clock : State Worker Id Key Time Body) where
  processing_last := by simp [State.initial]
  open_distinct := by simp [State.initial]

theorem Ordered.initial (clock : Time) :
    Ordered (State.initial clock : State Worker Id Key Time Body) where
  started_last := by simp [State.initial]
  held_last := by simp [State.initial]

/-- Two entries of a group are never in processing together. -/
theorem Exclusive.at_most_one {state : State Worker Id Key Time Body}
    (exclusive : Exclusive state) {left right : Entry Id Key Time Body}
    (leftMem : left ∈ state.entries) (rightMem : right ∈ state.entries)
    (grouped : left.card.key ≠ none) (sameKey : left.card.key = right.card.key)
    (leftLent : left.phase = .processing) (rightLent : right.phase = .processing) :
    left = right := by
  rcases lt_trichotomy left.card.stamp right.card.stamp with before | same | after
  · have terminal := exclusive.processing_last right rightMem rightLent left leftMem
      ⟨sameKey ▸ grouped, sameKey, before⟩
    simp [leftLent, Phase.terminal] at terminal
  · exact exclusive.open_distinct left leftMem right rightMem grouped sameKey same
      (by simp [leftLent, Phase.terminal]) (by simp [rightLent, Phase.terminal])
  · have terminal := exclusive.processing_last left leftMem leftLent right rightMem
      ⟨grouped, sameKey.symm, after⟩
    simp [rightLent, Phase.terminal] at terminal

section Step

variable [DecidableEq Worker] [DecidableEq Id]
variable {before after : State Worker Id Key Time Body}
variable {action : Action Worker Id Key Time Body}

omit [LinearOrder Time] [DecidableEq Worker] [DecidableEq Id] in
/-- An entry is recognised by its card. -/
theorem mem_of_card {state : State Worker Id Key Time Body}
    {card : Card Id Key Time Body} (known : card ∈ state.cards) :
    ∃ entry ∈ state.entries, entry.card = card := by
  simpa [State.cards] using known

/-- Where an entry comes from: the stored entry with its card, or an append. -/
theorem origin (step : Step before action after) {entry : Entry Id Key Time Body}
    (membership : entry ∈ after.entries) :
    (∃ earlier ∈ before.entries, earlier.card = entry.card) ∨
      (action = .append entry ∧ entry.Fresh ∧
        after.entries = before.entries ++ [entry]) := by
  cases step with
  | append appended fresh unknown =>
      simp only [List.mem_append, List.mem_singleton] at membership
      rcases membership with earlier | rfl
      · exact .inl ⟨entry, earlier, rfl⟩
      · exact .inr ⟨rfl, fresh, rfl⟩
  | start | read | consult | decide => exact .inl ⟨entry, membership, rfl⟩
  | claim worker time now lease fifo chosen batch armed lends =>
      refine .inl (mem_of_card ?_)
      have known : entry.card ∈ (lend chosen lease now
          (sweep now before.entries)).map Entry.card := List.mem_map_of_mem membership
      rwa [cards_lend, cards_sweep] at known
  | record worker time due recorded rest verdict held decided =>
      refine .inl (mem_of_card ?_)
      have known := List.mem_map_of_mem (f := Entry.card) membership
      rwa [cards_record] at known

/-- With tenure, a terminal entry stays terminal: an entry with its card after the
step is that entry. -/
theorem terminal_origin (sound : Integrity before) (tenure : Tenure before)
    (current : Current before action) (step : Step before action after)
    {earlier later : Entry Id Key Time Body} (earlierMem : earlier ∈ before.entries)
    (laterMem : later ∈ after.entries) (sameCard : earlier.card = later.card)
    (terminal : earlier.phase.terminal = true) : later = earlier :=
  (sound.step step).entry_unique laterMem
    (terminal_step sound tenure current step earlierMem terminal) (by rw [sameCard])

/-- The only way out of the pending phase is a claim, which respects the group. -/
theorem claim_of_pending (sound : Integrity before) (tenure : Tenure before)
    (current : Current before action) (grouped : Grouped before action)
    (step : Step before action after)
    {earlier later : Entry Id Key Time Body} (earlierMem : earlier ∈ before.entries)
    (laterMem : later ∈ after.entries) (sameCard : earlier.card = later.card)
    (pending : earlier.phase = .pending) (started : later.phase ≠ .pending)
    {older : Entry Id Key Time Body} (olderMem : older ∈ before.entries)
    (isOlder : older.card.Older later.card) : older.phase.terminal = true := by
  have sameId : earlier.card.id = later.card.id := by rw [sameCard]
  cases step with
  | append appended fresh unknown =>
      simp only [List.mem_append, List.mem_singleton] at laterMem
      rcases laterMem with stored | rfl
      · exact absurd (sound.entry_unique earlierMem stored sameId ▸ pending) started
      · exact absurd fresh.pending started
  | start | read | consult | decide =>
      exact absurd (sound.entry_unique earlierMem laterMem sameId ▸ pending) started
  | claim worker time now lease fifo chosen batch armed lends =>
      obtain rfl := grouped worker time now lease fifo chosen batch rfl
      obtain ⟨swept, sweptMem, ⟨picked, rfl⟩ | ⟨_, rfl⟩⟩ := mem_updateWhere.mp laterMem
      · by_contra isOpen
        have openBefore : older.phase.terminal = false := by simpa using isOpen
        have gate := (lends.ready swept sweptMem picked).gate rfl isOlder.1
        -- The sweep keeps the older entry open, so it still blocks.
        by_cases isExpired : older.expired now = true
        · exact gate (older.release now) (mem_updateWhere_of olderMem isExpired)
            ⟨isOlder.2.1, isOlder.2.2, rfl⟩
        · exact gate older (mem_updateWhere_of_not olderMem (by simpa using isExpired))
            ⟨isOlder.2.1, isOlder.2.2, openBefore⟩
      · obtain ⟨stored, storedMem, ⟨_, rfl⟩ | ⟨_, rfl⟩⟩ := mem_updateWhere.mp sweptMem
        · exact absurd rfl started
        · exact absurd (sound.entry_unique earlierMem storedMem sameId ▸ pending) started
  | record worker time due recorded rest verdict held decided =>
      obtain ⟨_, processing, unique⟩ := tenure.record_meets sound current decided
      obtain ⟨stored, storedMem, ⟨matched, rfl⟩ | ⟨_, rfl⟩⟩ := mem_updateWhere.mp laterMem
      · simp only [decide_eq_true_eq] at matched
        have same := unique stored storedMem matched
        simp only [Entry.card_settle] at sameId
        have met := sound.entry_unique earlierMem storedMem sameId
        rw [met, same, processing] at pending
        simp at pending
      · exact absurd (sound.entry_unique earlierMem storedMem sameId ▸ pending) started

/-- With tenure, an entry that is open after a step was open before it. -/
theorem open_origin (sound : Integrity before) (tenure : Tenure before)
    (current : Current before action) (step : Step before action after)
    {earlier later : Entry Id Key Time Body} (earlierMem : earlier ∈ before.entries)
    (laterMem : later ∈ after.entries) (sameCard : earlier.card = later.card)
    (isOpen : later.phase.terminal = false) : earlier.phase.terminal = false := by
  by_contra closed
  have terminal : earlier.phase.terminal = true := by simpa using closed
  rw [terminal_origin sound tenure current step earlierMem laterMem sameCard terminal,
    terminal] at isOpen
  simp at isOpen

/-- Mutual exclusion within groups is preserved when arrivals are placed. -/
theorem Exclusive.step (sound : Integrity before) (tenure : Tenure before)
    (exclusive : Exclusive before) (current : Current before action)
    (grouped : Grouped before action) (placed : Placed before action)
    (step : Step before action after) : Exclusive after := by
  have soundAfter := sound.step step
  constructor
  · intro entry membership processing older olderMem isOlder
    rcases origin step membership with ⟨earlier, earlierMem, sameCard⟩ | ⟨_, fresh, _⟩
    · rcases origin step olderMem with ⟨olderEarlier, olderEarlierMem, olderCard⟩ |
        ⟨appended, _, entries⟩
      · have terminalBefore : olderEarlier.phase.terminal = true := by
          cases phase : earlier.phase with
          | processing =>
              exact exclusive.processing_last earlier earlierMem phase olderEarlier
                olderEarlierMem (by rwa [olderCard, sameCard])
          | pending =>
              exact claim_of_pending sound tenure current grouped step earlierMem
                membership sameCard phase (by simp [processing]) olderEarlierMem
                (by rwa [olderCard])
          | done | failed =>
              have same := terminal_origin sound tenure current step earlierMem
                membership sameCard (by simp [phase, Phase.terminal])
              rw [same, phase] at processing
              simp at processing
        rwa [terminal_origin sound tenure current step olderEarlierMem olderMem olderCard
          terminalBefore]
      · -- The older entry has just arrived; nothing behind it is in processing.
        rw [entries] at membership
        simp only [List.mem_append, List.mem_singleton] at membership
        rcases membership with stored | rfl
        · have position := (placed older appended (isOlder.2.1 ▸ isOlder.1) entry stored
            isOlder.2.1.symm).2 processing
          exact absurd isOlder.2.2 (not_lt.mpr position)
        · exact absurd isOlder.2.2 (lt_irrefl _)
    · simp [fresh.pending] at processing
  · intro left leftMem right rightMem keyed sameKey sameStamp leftOpen rightOpen
    rcases origin step leftMem with ⟨leftEarlier, leftEarlierMem, leftCard⟩ |
      ⟨leftAppended, _, leftEntries⟩
    · rcases origin step rightMem with ⟨rightEarlier, rightEarlierMem, rightCard⟩ |
        ⟨rightAppended, _, rightEntries⟩
      · have same := exclusive.open_distinct leftEarlier leftEarlierMem rightEarlier
          rightEarlierMem (by rwa [leftCard]) (by rwa [leftCard, rightCard])
          (by rwa [leftCard, rightCard])
          (open_origin sound tenure current step leftEarlierMem leftMem leftCard leftOpen)
          (open_origin sound tenure current step rightEarlierMem rightMem rightCard
            rightOpen)
        exact soundAfter.entry_unique leftMem rightMem
          (by rw [← leftCard, ← rightCard, same])
      · rw [rightEntries] at leftMem
        simp only [List.mem_append, List.mem_singleton] at leftMem
        rcases leftMem with stored | same
        · exact absurd sameStamp ((placed right rightAppended (sameKey ▸ keyed) left stored
            sameKey).1 leftOpen)
        · exact same
    · rw [leftEntries] at rightMem
      simp only [List.mem_append, List.mem_singleton] at rightMem
      rcases rightMem with stored | same
      · exact absurd sameStamp.symm ((placed left leftAppended keyed right stored
          sameKey.symm).1 rightOpen)
      · exact same.symm

/-- What a worker holds after a step it held before, or has just been lent. -/
theorem held_origin (step : Step before action after) {worker : Worker}
    {entry : Entry Id Key Time Body} (held : entry ∈ (after.session worker).held) :
    entry ∈ (before.session worker).held ∨
      (entry ∈ after.entries ∧ entry.phase = .processing) := by
  cases step with
  | append => exact .inl held
  | consult => exact .inl held
  | start other =>
      by_cases same : worker = other
      · subst same
        simp at held
      · exact .inl (by simpa [same] using held)
  | read other time | decide other time item verdict head =>
      refine .inl ?_
      by_cases same : worker = other <;> simp_all [Function.update]
  | claim other time now lease fifo chosen batch armed lends =>
      by_cases same : worker = other
      · subst same
        simp only [claimSessions, ↓reduceIte] at held
        obtain ⟨swept, _, _, rfl, stored⟩ := lends.mem_lend held
        exact .inr ⟨stored, rfl⟩
      · exact .inl (by simpa [claimSessions, same] using held)
  | record other time due item rest verdict heldItems decided =>
      refine .inl ?_
      by_cases same : worker = other
      · subst same
        simp only [Function.update_self] at held
        simp [heldItems, held]
      · simpa [same] using held

/-- Order within groups is preserved when producers are serial. -/
theorem Ordered.step (sound : Integrity before) (tenure : Tenure before)
    (ordered : Ordered before) (current : Current before action)
    (grouped : Grouped before action) (serial : Serial before action)
    (step : Step before action after) : Ordered after := by
  -- An arrival is behind everything that is known already.
  have behind : ∀ arrival, action = .append arrival → ∀ card ∈ before.cards,
      ¬arrival.card.Older card := by
    intro arrival appended card known isOlder
    obtain ⟨stored, storedMem, rfl⟩ := mem_of_card known
    have later := serial arrival appended (isOlder.2.1 ▸ isOlder.1) stored storedMem
      isOlder.2.1.symm
    exact lt_asymm isOlder.2.2 later
  have startedLast : ∀ entry ∈ after.entries, entry.phase ≠ .pending →
      ∀ older ∈ after.entries, older.card.Older entry.card →
        older.phase.terminal = true := by
    intro entry membership started older olderMem isOlder
    rcases origin step membership with ⟨earlier, earlierMem, sameCard⟩ | ⟨_, fresh, _⟩
    · rcases origin step olderMem with ⟨olderEarlier, olderEarlierMem, olderCard⟩ |
        ⟨appended, _, _⟩
      · have terminalBefore : olderEarlier.phase.terminal = true := by
          by_cases pending : earlier.phase = .pending
          · exact claim_of_pending sound tenure current grouped step earlierMem
              membership sameCard pending started olderEarlierMem (by rwa [olderCard])
          · exact ordered.started_last earlier earlierMem pending olderEarlier
              olderEarlierMem (by rwa [olderCard, sameCard])
        rwa [terminal_origin sound tenure current step olderEarlierMem olderMem olderCard
          terminalBefore]
      · exact absurd (sameCard ▸ isOlder)
          (behind older appended earlier.card (List.mem_map_of_mem earlierMem))
    · exact absurd fresh.pending started
  refine ⟨startedLast, ?_⟩
  intro worker entry held older olderMem isOlder
  rcases held_origin step held with heldBefore | ⟨stored, processing⟩
  · have known := (sound.sessions worker).held_known entry heldBefore
    rcases origin step olderMem with ⟨olderEarlier, olderEarlierMem, olderCard⟩ |
      ⟨appended, _, _⟩
    · have terminalBefore := ordered.held_last worker entry heldBefore olderEarlier
        olderEarlierMem (by rwa [olderCard])
      rwa [terminal_origin sound tenure current step olderEarlierMem olderMem olderCard
        terminalBefore]
    · exact absurd isOlder (behind older appended entry.card known)
  · exact startedLast entry stored (by simp [processing]) older olderMem isOlder

end Step

end Pactix.Queue
