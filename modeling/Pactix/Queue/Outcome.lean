import Pactix.Queue.Order

/-!
# Outcomes and attempts

What a phase of an entry says about the verdicts that were given, in every run;
and the attempt ceiling, in runs whose verdicts are recorded with tenure.
-/

namespace Pactix.Queue

open Foundation

variable {Id Key Time Body Worker : Type}

/-- A verdict that ends the life of the entry it was given about without success. -/
def Verdict.Final (verdict : Verdict) (entry : Entry Id Key Time Body) : Prop :=
  match verdict with
  | .done => False
  | .retryable _ => entry.attempts + 1 ≥ entry.card.ceiling
  | .terminal _ => True

namespace Entry

theorem settle_done {verdict : Verdict} {attempts ceiling : Int} {due now : Time}
    {entry : Entry Id Key Time Body}
    (done : (entry.settle verdict attempts ceiling due now).phase = .done) :
    verdict = .done := by
  cases verdict with
  | done => rfl
  | terminal message => simp [settle, fail] at done
  | retryable message =>
      simp only [settle] at done
      split at done <;> simp [fail, retry] at done

theorem settle_failed {verdict : Verdict} {held entry : Entry Id Key Time Body}
    {due now : Time}
    (failed : (entry.settle verdict held.attempts held.card.ceiling due now).phase =
      .failed) : verdict.Final held := by
  cases verdict with
  | done => simp [settle, finish] at failed
  | terminal message => trivial
  | retryable message =>
      simp only [settle] at failed
      split at failed
      next reached => exact reached
      next => simp [retry] at failed

theorem attempts_le_settle (verdict : Verdict) (attempts ceiling : Int)
    (due now : Time) (entry : Entry Id Key Time Body) :
    entry.attempts ≤ (entry.settle verdict attempts ceiling due now).attempts := by
  cases verdict with
  | done => exact le_refl _
  | terminal message =>
      simp only [settle, fail]
      omega
  | retryable message =>
      simp only [settle]
      split <;> simp only [fail, retry] <;> omega

end Entry

/-- Every terminal phase was earned by a verdict about a copy of the entry. -/
structure Evidenced (state : State Worker Id Key Time Body) : Prop where
  done : ∀ entry ∈ state.entries, entry.phase = .done →
    ∃ held, (held, Verdict.done) ∈ state.verdicts ∧ held.card = entry.card
  failed : ∀ entry ∈ state.entries, entry.phase = .failed →
    ∃ held verdict, (held, verdict) ∈ state.verdicts ∧ held.card = entry.card ∧
      verdict.Final held

theorem Evidenced.initial (clock : Time) :
    Evidenced (State.initial clock : State Worker Id Key Time Body) where
  done := by simp [State.initial]
  failed := by simp [State.initial]

/-- No more attempts than the ceiling, and fewer while the entry waits for another one.
The ceiling allows one attempt at least. -/
def Entry.WithinCeiling (entry : Entry Id Key Time Body) : Prop :=
  entry.attempts ≤ max 1 entry.card.ceiling ∧
    (entry.phase = .pending → entry.attempts < max 1 entry.card.ceiling)

/-- The entry has an attempt left. -/
def Entry.BelowCeiling (entry : Entry Id Key Time Body) : Prop :=
  entry.attempts < max 1 entry.card.ceiling

/-- The attempt ceiling, in a form that claims and reclaims preserve: every open entry and
every held copy has an attempt left. -/
structure Capped (state : State Worker Id Key Time Body) : Prop where
  entries : ∀ entry ∈ state.entries, entry.attempts ≤ max 1 entry.card.ceiling ∧
    (entry.phase.terminal = false → entry.BelowCeiling)
  held : ∀ worker, ∀ entry ∈ (state.session worker).held, entry.BelowCeiling

theorem Capped.initial (clock : Time) :
    Capped (State.initial clock : State Worker Id Key Time Body) where
  entries := by simp [State.initial]
  held := by simp [State.initial]

theorem Capped.withinCeiling {state : State Worker Id Key Time Body} (capped : Capped state)
    {entry : Entry Id Key Time Body} (stored : entry ∈ state.entries) : entry.WithinCeiling :=
  ⟨(capped.entries entry stored).1, fun pending =>
    (capped.entries entry stored).2 (by simp [pending, Phase.terminal])⟩

/-- A failure is recorded only while the stored entry counts as many attempts as the copy that
it is about. -/
def Abreast (state : State Worker Id Key Time Body)
    (action : Action Worker Id Key Time Body) : Prop :=
  ∀ worker time due, action = .record worker time due →
    ∀ entry verdict, (state.session worker).decided = some (entry, verdict) → verdict ≠ .done →
      ∀ stored ∈ state.entries, stored.card.id = entry.card.id →
        stored.attempts = entry.attempts

/-- With tenure, an entry counts as many attempts as the held copy. -/
theorem Tenure.abreast {state : State Worker Id Key Time Body}
    {action : Action Worker Id Key Time Body} (sound : Integrity state)
    (tenure : Tenure state) (current : Current state action) : Abreast state action := by
  rintro worker time due rfl entry verdict decided _ stored storedMem sameId
  obtain ⟨_, _, unique⟩ := tenure.record_meets sound current decided
  rw [unique stored storedMem sameId]

/-- What a verdict about a copy with an attempt left does to an entry with the same count. -/
theorem Entry.settle_capped {held stored : Entry Id Key Time Body} {verdict : Verdict}
    (due now : Time) (sameCard : stored.card = held.card) (below : held.BelowCeiling)
    (bounded : stored.attempts ≤ max 1 stored.card.ceiling)
    (abreast : verdict ≠ .done → stored.attempts = held.attempts) :
    let settled := stored.settle verdict held.attempts held.card.ceiling due now
    settled.attempts ≤ max 1 settled.card.ceiling ∧
      (settled.phase.terminal = false → settled.BelowCeiling) := by
  unfold Entry.BelowCeiling at below ⊢
  cases verdict with
  | done =>
      refine ⟨bounded, fun isOpen => ?_⟩
      simp [Entry.settle, Entry.finish, Phase.terminal] at isOpen
  | terminal message =>
      have same := abreast (by simp)
      refine ⟨?_, fun isOpen => ?_⟩
      · simp only [Entry.settle, Entry.fail, sameCard]
        omega
      · simp [Entry.settle, Entry.fail, Phase.terminal] at isOpen
  | retryable message =>
      have same := abreast (by simp)
      simp only [Entry.settle]
      split
      next final =>
        refine ⟨?_, fun isOpen => ?_⟩
        · simp only [Entry.fail, sameCard]
          omega
        · simp [Entry.fail, Phase.terminal] at isOpen
      next again =>
        -- The copy has two attempts left, so that one is left after the retry.
        simp only [Entry.retry, sameCard]
        exact ⟨by omega, fun _ => by omega⟩

section Step

variable [DecidableEq Worker] [DecidableEq Id] [LinearOrder Time]
variable {before after : State Worker Id Key Time Body}
variable {action : Action Worker Id Key Time Body}

omit [DecidableEq Worker] [DecidableEq Id] in
/-- An entry after a claim was swept, lent or left alone. -/
theorem mem_lend_sweep {chosen : Id → Bool} {lease now : Time}
    {entries : List (Entry Id Key Time Body)} {later : Entry Id Key Time Body}
    (membership : later ∈ lend chosen lease now (sweep now entries)) :
    ∃ earlier ∈ entries, later = earlier ∨
      (earlier.phase = .processing ∧ later = earlier.release now) ∨
      ∃ swept ∈ sweep now entries, chosen swept.card.id = true ∧
        swept.card = earlier.card ∧ swept.attempts = earlier.attempts ∧
        later = swept.take lease now := by
  obtain ⟨swept, sweptMem, taken⟩ := mem_updateWhere.mp membership
  obtain ⟨earlier, earlierMem, released⟩ := mem_updateWhere.mp sweptMem
  refine ⟨earlier, earlierMem, ?_⟩
  rcases taken with ⟨picked, rfl⟩ | ⟨_, rfl⟩
  · refine .inr (.inr ⟨swept, sweptMem, picked, ?_, ?_, rfl⟩) <;>
      rcases released with ⟨_, rfl⟩ | ⟨_, rfl⟩ <;> rfl
  · rcases released with ⟨isExpired, rfl⟩ | ⟨_, rfl⟩
    · exact .inr (.inl ⟨(Entry.expired_eq_true.mp isExpired).1, rfl⟩)
    · exact .inl rfl

/-- No entry is lost and no attempt is uncounted. -/
theorem attempts_step (step : Step before action after)
    {entry : Entry Id Key Time Body} (membership : entry ∈ before.entries) :
    ∃ later ∈ after.entries, later.card = entry.card ∧
      entry.attempts ≤ later.attempts := by
  -- Each conditional update keeps the card and does not lower the count.
  have updated : ∀ (condition : Entry Id Key Time Body → Bool)
      (assign : Entry Id Key Time Body → Entry Id Key Time Body)
      (entries : List (Entry Id Key Time Body)),
      (∀ item, (assign item).card = item.card ∧ item.attempts ≤ (assign item).attempts) →
      ∀ item ∈ entries, ∃ later ∈ updateWhere condition assign entries,
        later.card = item.card ∧ item.attempts ≤ later.attempts := by
    intro condition assign entries keeps item itemMem
    cases holds : condition item with
    | true =>
        exact ⟨assign item, mem_updateWhere_of itemMem holds, keeps item⟩
    | false =>
        exact ⟨item, mem_updateWhere_of_not itemMem holds, rfl, le_refl _⟩
  cases step with
  | append => exact ⟨entry, List.mem_append_left _ membership, rfl, le_refl _⟩
  | start | read | consult | decide => exact ⟨entry, membership, rfl, le_refl _⟩
  | claim worker time now lease fifo chosen batch armed lends =>
      obtain ⟨swept, sweptMem, sweptCard, sweptAttempts⟩ :=
        updated (Entry.expired now) (Entry.release now) before.entries
          (fun _ => ⟨rfl, le_refl _⟩) entry membership
      obtain ⟨lent, lentMem, lentCard, lentAttempts⟩ :=
        updated (fun item => chosen item.card.id) (Entry.take lease now)
          (sweep now before.entries) (fun _ => ⟨rfl, le_refl _⟩) swept sweptMem
      exact ⟨lent, lentMem, lentCard.trans sweptCard, sweptAttempts.trans lentAttempts⟩
  | record worker time due recorded rest verdict held decided =>
      exact updated _ _ before.entries (fun item =>
        ⟨Entry.card_settle _ _ _ _ _ item, Entry.attempts_le_settle _ _ _ _ _ item⟩)
        entry membership

/-- Evidence is preserved by every step, however late its verdict. -/
theorem Evidenced.step (sound : Integrity before) (evidenced : Evidenced before)
    (step : Step before action after) : Evidenced after := by
  cases step with
  | append appended fresh unknown =>
      constructor <;> intro entry membership phase <;>
        simp only [List.mem_append, List.mem_singleton] at membership <;>
        rcases membership with stored | rfl
      · exact evidenced.done entry stored phase
      · simp [fresh.pending] at phase
      · exact evidenced.failed entry stored phase
      · simp [fresh.pending] at phase
  | start | read | consult => exact ⟨evidenced.done, evidenced.failed⟩
  | decide worker time decidedEntry decidedVerdict head =>
      constructor
      · intro entry membership phase
        obtain ⟨held, given, sameCard⟩ := evidenced.done entry membership phase
        exact ⟨held, List.mem_cons_of_mem _ given, sameCard⟩
      · intro entry membership phase
        obtain ⟨held, verdict, given, sameCard, final⟩ :=
          evidenced.failed entry membership phase
        exact ⟨held, verdict, List.mem_cons_of_mem _ given, sameCard, final⟩
  | claim worker time now lease fifo chosen batch armed lends =>
      constructor <;> intro entry membership phase <;>
        obtain ⟨earlier, earlierMem, rfl | ⟨_, rfl⟩ | ⟨_, _, _, _, _, rfl⟩⟩ :=
          mem_lend_sweep membership
      · exact evidenced.done entry earlierMem phase
      · simp [Entry.release] at phase
      · simp [Entry.take] at phase
      · exact evidenced.failed entry earlierMem phase
      · simp [Entry.release] at phase
      · simp [Entry.take] at phase
  | record worker time due recorded rest verdict held decided =>
      obtain ⟨head, given⟩ :=
        (sound.sessions worker).decided_head recorded verdict decided
      have heldMem : recorded ∈ (before.session worker).held := List.mem_of_head? head
      constructor <;> intro entry membership phase <;>
        obtain ⟨stored, storedMem, ⟨matched, rfl⟩ | ⟨_, rfl⟩⟩ :=
          mem_updateWhere.mp membership
      · obtain rfl := Entry.settle_done phase
        refine ⟨recorded, given, ?_⟩
        rw [Entry.card_settle]
        exact (sound.card_of_held storedMem heldMem (by simpa using matched)).symm
      · exact evidenced.done entry storedMem phase
      · refine ⟨recorded, verdict, given, ?_, Entry.settle_failed phase⟩
        rw [Entry.card_settle]
        exact (sound.card_of_held storedMem heldMem (by simpa using matched)).symm
      · exact evidenced.failed entry storedMem phase

/-- The ceiling holds while failures are recorded with the stored count. -/
theorem Capped.step (sound : Integrity before) (capped : Capped before)
    (abreast : Abreast before action) (step : Step before action after) : Capped after := by
  cases step with
  | append appended fresh unknown =>
      refine ⟨fun entry membership => ?_, capped.held⟩
      simp only [List.mem_append, List.mem_singleton] at membership
      rcases membership with stored | rfl
      · exact capped.entries entry stored
      · rw [Entry.BelowCeiling, fresh.attempts]
        exact ⟨by omega, fun _ => by omega⟩
  | consult => exact ⟨capped.entries, capped.held⟩
  | start worker =>
      refine ⟨capped.entries, (Function.forall_update_iff before.session
        fun _ session => ∀ entry ∈ session.held, entry.BelowCeiling).mpr ⟨?_, ?_⟩⟩
      · simp
      · exact fun other _ => capped.held other
  | read worker | decide worker =>
      refine ⟨capped.entries, (Function.forall_update_iff before.session
        fun _ session => ∀ entry ∈ session.held, entry.BelowCeiling).mpr ⟨?_, ?_⟩⟩
      · exact capped.held worker
      · exact fun other _ => capped.held other
  | claim worker time now lease fifo chosen batch armed lends =>
      -- Only pending entries are lent, and sweeping makes an entry pending.
      have below : ∀ swept ∈ sweep now before.entries, chosen swept.card.id = true →
          swept.BelowCeiling := by
        intro swept sweptMem picked
        have pending := (lends.ready swept sweptMem picked).pending
        obtain ⟨earlier, earlierMem, ⟨isExpired, rfl⟩ | ⟨_, rfl⟩⟩ := mem_updateWhere.mp sweptMem
        · exact (capped.entries earlier earlierMem).2
            (by simp [(Entry.expired_eq_true.mp isExpired).1, Phase.terminal])
        · exact (capped.entries _ earlierMem).2 (by simp [pending, Phase.terminal])
      constructor
      · intro entry membership
        obtain ⟨earlier, earlierMem,
            rfl | ⟨processing, rfl⟩ | ⟨swept, sweptMem, picked, _, _, rfl⟩⟩ :=
          mem_lend_sweep membership
        · exact capped.entries entry earlierMem
        · have bound := capped.entries earlier earlierMem
          exact ⟨bound.1, fun _ => bound.2 (by simp [processing, Phase.terminal])⟩
        · have bound := below swept sweptMem picked
          exact ⟨bound.le, fun _ => bound⟩
      · intro other entry membership
        simp only [claimSessions] at membership
        split at membership
        · obtain ⟨swept, sweptMem, picked, rfl, _⟩ := lends.mem_lend membership
          exact below swept sweptMem picked
        · exact capped.held other entry membership
  | record worker time due recorded rest verdict held decided =>
      have heldMem : recorded ∈ (before.session worker).held := by
        rw [held]
        exact List.mem_cons_self
      refine ⟨fun entry membership => ?_, (Function.forall_update_iff before.session
        fun _ session => ∀ entry ∈ session.held, entry.BelowCeiling).mpr ⟨?_, ?_⟩⟩
      · obtain ⟨stored, storedMem, ⟨matched, rfl⟩ | ⟨_, rfl⟩⟩ := mem_updateWhere.mp membership
        · have sameId : stored.card.id = recorded.card.id := by simpa using matched
          exact Entry.settle_capped due time (sound.card_of_held storedMem heldMem sameId)
            (capped.held worker recorded heldMem) (capped.entries stored storedMem).1
            fun fails => abreast worker time due rfl recorded verdict decided fails stored
              storedMem sameId
        · exact capped.entries entry storedMem
      · intro entry later
        exact capped.held worker entry (held ▸ List.mem_cons_of_mem _ later)
      · exact fun other _ => capped.held other

end Step

end Pactix.Queue
