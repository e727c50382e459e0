import Mathlib.Algebra.Order.BigOperators.Group.List
import Pactix.Queue.Outcome

/-!
# Waiting entries

How many loans of other entries a waiting entry can still see.  An entry has as many left as
attempts below its ceiling; a loan uses one up, and taking an entry back returns it.
-/

namespace Pactix.Queue

open Foundation

variable {Id Key Time Body Worker : Type}

namespace Entry

/-- The loans that an entry has left, while every one of them ends with a verdict. -/
def allowance (entry : Entry Id Key Time Body) : Int :=
  match entry.phase with
  | .pending => max 1 entry.card.ceiling - entry.attempts
  | .processing => max 1 entry.card.ceiling - entry.attempts - 1
  | .done => 0
  | .failed => 0

/-- An entry other than the waiting one that does not come after it. -/
def Ahead [LE Time] (id : Id) (stamp : Time) (entry : Entry Id Key Time Body) : Prop :=
  entry.card.stamp ≤ stamp ∧ entry.card.id ≠ id

section Decidable

variable [LinearOrder Time] [DecidableEq Id] [DecidableEq Key]

instance (id : Id) (stamp : Time) (entry : Entry Id Key Time Body) :
    Decidable (entry.Ahead id stamp) :=
  inferInstanceAs (Decidable (entry.card.stamp ≤ stamp ∧ entry.card.id ≠ id))

instance (older candidate : Entry Id Key Time Body) : Decidable (older.Blocks candidate) :=
  inferInstanceAs (Decidable (older.card.key = candidate.card.key ∧
    older.card.stamp < candidate.card.stamp ∧ older.phase.terminal = false))

instance (fifo : Bool) (now : Time) (entries : List (Entry Id Key Time Body))
    (candidate : Entry Id Key Time Body) : Decidable (candidate.Ready fifo now entries) :=
  decidable_of_iff (candidate.phase = .pending ∧ candidate.due ≤ now ∧
      (fifo = true → candidate.card.key ≠ none → ∀ older ∈ entries, ¬older.Blocks candidate))
    ⟨fun ⟨pending, due, gate⟩ => ⟨pending, due, gate⟩,
      fun ready => ⟨ready.pending, ready.due, ready.gate⟩⟩

end Decidable

variable [LinearOrder Time] [DecidableEq Id]

/-- What an entry that is ahead still has left. -/
def weight (id : Id) (stamp : Time) (entry : Entry Id Key Time Body) : Int :=
  if entry.Ahead id stamp then entry.allowance else 0

/-- One for an entry that is ahead. -/
def share (id : Id) (stamp : Time) (entry : Entry Id Key Time Body) : Int :=
  if entry.Ahead id stamp then 1 else 0

variable {id : Id} {stamp : Time} {entry later : Entry Id Key Time Body}

omit [DecidableEq Id] in
theorem ahead_of_card (card : later.card = entry.card) :
    later.Ahead id stamp ↔ entry.Ahead id stamp := by
  simp only [Ahead, card]

/-- The weight of an entry follows what it has left, if the entry is ahead. -/
theorem weight_of_card (card : later.card = entry.card) :
    later.weight id stamp =
      entry.weight id stamp + (later.allowance - entry.allowance) * entry.share id stamp := by
  unfold weight share
  by_cases ahead : entry.Ahead id stamp
  · rw [if_pos ahead, if_pos ahead, if_pos ((ahead_of_card card).mpr ahead)]
    omega
  · rw [if_neg ahead, if_neg ahead, if_neg (ahead ∘ (ahead_of_card card).mp)]
    omega

end Entry

section Sums

variable [LinearOrder Time] [DecidableEq Id] (id : Id) (stamp : Time)

/-- The loans that the entries ahead have left. -/
def State.owed (state : State Worker Id Key Time Body) : Int :=
  (state.entries.map (Entry.weight id stamp)).sum

/-- An open entry has an attempt left, so nothing that is owed is negative. -/
theorem Capped.owed_nonneg {state : State Worker Id Key Time Body} (capped : Capped state) :
    0 ≤ state.owed id stamp := by
  apply List.sum_nonneg
  intro weight listed
  obtain ⟨entry, stored, rfl⟩ := List.mem_map.mp listed
  have below := (capped.entries entry stored).2
  unfold Entry.weight
  split
  · unfold Entry.allowance
    cases phase : entry.phase with
    | pending | processing =>
        have left : entry.attempts < max 1 entry.card.ceiling := below (by rw [phase]; rfl)
        simp only
        omega
    | done | failed => exact le_refl 0
  · exact le_refl 0

variable {id stamp}

/-- Taking expired entries back returns a loan for each that is ahead. -/
theorem owed_sweep (now : Time) (entries : List (Entry Id Key Time Body)) :
    ((sweep now entries).map (Entry.weight id stamp)).sum =
      (entries.map (Entry.weight id stamp)).sum +
        ((entries.filter (Entry.expired now)).map (Entry.share id stamp)).sum := by
  apply sum_updateWhere
  intro entry _ expired
  have processing := (Entry.expired_eq_true.mp expired).1
  rw [Entry.weight_of_card (Entry.card_release now entry)]
  simp only [Entry.allowance, Entry.release, processing]
  congr 1
  rw [sub_sub_cancel, one_mul]

/-- Lending pending entries uses up a loan for each that is ahead. -/
theorem owed_lend {fifo : Bool} {now lease : Time} {entries batch : List (Entry Id Key Time Body)}
    {chosen : Id → Bool} (lends : Lends fifo now lease entries chosen batch) :
    ((lend chosen lease now (sweep now entries)).map (Entry.weight id stamp)).sum =
      ((sweep now entries).map (Entry.weight id stamp)).sum -
        (batch.map (Entry.share id stamp)).sum := by
  have lent : (batch.map (Entry.share id stamp)).sum =
      (((sweep now entries).filter fun entry => chosen entry.card.id).map
        (Entry.share id stamp)).sum := by
    rw [(lends.batch_perm.map (Entry.share id stamp)).sum_eq, List.map_map]
    rfl
  rw [lent, sub_eq_add_neg, List.sum_neg, List.map_map]
  apply sum_updateWhere
  intro entry stored picked
  have pending := (lends.ready entry stored picked).pending
  rw [Entry.weight_of_card (Entry.card_take lease now entry)]
  simp only [Entry.allowance, Entry.take, pending, Function.comp_apply]
  congr 1
  omega

end Sums

section Step

variable [DecidableEq Worker] [DecidableEq Id] [LinearOrder Time]
variable {before after : State Worker Id Key Time Body} {id : Id} {stamp : Time}

variable (id stamp) in
/-- A claim lends a batch and takes back what has expired. -/
theorem owed_claim {worker : Worker} {time now lease : Time} {fifo : Bool} {chosen : Id → Bool}
    {batch : List (Entry Id Key Time Body)}
    (step : Step before (.claim worker time now lease fifo chosen batch) after) :
    after.owed id stamp + (((after.session worker).held).map (Entry.share id stamp)).sum =
      before.owed id stamp +
        ((before.entries.filter (Entry.expired now)).map (Entry.share id stamp)).sum := by
  cases step with
  | claim _ _ _ _ _ _ _ armed lends =>
      simp only [State.owed, owed_lend lends, owed_sweep, claimSessions, if_true]
      omega

/-- A verdict that is recorded with tenure leaves no more to the entry than it had. -/
theorem Entry.weight_settle {held : Entry Id Key Time Body} {verdict : Verdict} {due now : Time}
    (processing : held.phase = .processing) (below : held.attempts < max 1 held.card.ceiling) :
    (held.settle verdict held.attempts held.card.ceiling due now).weight id stamp ≤
      held.weight id stamp := by
  unfold weight
  rw [if_congr (ahead_of_card (card_settle ..)) rfl rfl]
  split
  · have left : held.allowance = max 1 held.card.ceiling - held.attempts - 1 := by
      simp only [allowance, processing]
    rw [left]
    cases verdict with
    | done =>
        simp only [settle, finish, allowance]
        omega
    | terminal message =>
        simp only [settle, fail, allowance]
        omega
    | retryable message =>
        simp only [settle]
        split
        · simp only [fail, allowance]
          omega
        · simp only [retry, allowance]
          omega
  · exact le_refl 0

/-- Only claims change what is owed, while verdicts are recorded with tenure and no entry
arrives ahead. -/
theorem owed_step {action : Action Worker Id Key Time Body} (sound : Integrity before)
    (tenure : Tenure before) (capped : Capped before) (current : Current before action)
    (later : ∀ entry, action = .append entry → stamp < entry.card.stamp)
    (quiet : ∀ worker time now lease fifo chosen batch,
      action ≠ .claim worker time now lease fifo chosen batch)
    (step : Step before action after) : after.owed id stamp ≤ before.owed id stamp := by
  cases step with
  | start | read | consult | decide => exact le_refl _
  | claim worker time now lease fifo chosen batch =>
      exact absurd rfl (quiet worker time now lease fifo chosen batch)
  | append entry fresh unknown =>
      have behind : entry.weight id stamp = 0 :=
        if_neg fun ahead => absurd ahead.1 (not_le_of_gt (later entry rfl))
      simp [State.owed, behind]
  | record worker time due recorded rest verdict held decided =>
      obtain ⟨stored, processing, unique⟩ := tenure.record_meets sound current decided
      have below := (capped.entries recorded stored).2 (by simp [processing, Phase.terminal])
      simp only [State.owed, updateWhere, List.map_map]
      apply List.sum_le_sum
      intro entry listed
      simp only [Function.comp_apply]
      split
      next matched =>
        obtain rfl := unique entry listed (by simpa using matched)
        exact Entry.weight_settle processing below
      next => exact le_refl _

end Step

end Pactix.Queue
