import Mathlib.Algebra.GroupWithZero.Nat
import Mathlib.Data.List.MinMax
import Pactix.Queue.Outcome

/-!
# Backlog

How many verdicts a queue can still consume.  A group never blocks itself, so a
claim that finds every lease over and every entry due lends something, and every
verdict about a stored entry makes the backlog smaller.
-/

namespace Pactix.Queue

open Foundation

variable {Id Key Time Body : Type}

/-- The number of verdicts after which an entry is terminal at the latest. -/
def Entry.remaining (entry : Entry Id Key Time Body) : Nat :=
  if entry.phase.terminal then 0
  else (max 1 (entry.card.ceiling - entry.attempts)).toNat

/-- The number of verdicts after which every entry is terminal at the latest. -/
def backlog (entries : List (Entry Id Key Time Body)) : Nat :=
  (entries.map Entry.remaining).sum

namespace Entry

theorem remaining_of_open {entry : Entry Id Key Time Body}
    (isOpen : entry.phase.terminal = false) :
    entry.remaining = (max 1 (entry.card.ceiling - entry.attempts)).toNat := by
  simp [remaining, isOpen]

theorem remaining_pos {entry : Entry Id Key Time Body}
    (isOpen : entry.phase.terminal = false) : 1 ≤ entry.remaining := by
  rw [remaining_of_open isOpen]
  omega

theorem remaining_eq_zero {entry : Entry Id Key Time Body} :
    entry.remaining = 0 ↔ entry.phase.terminal = true := by
  constructor
  · intro zero
    by_contra isOpen
    have positive : 1 ≤ entry.remaining := remaining_pos (by simpa using isOpen)
    omega
  · intro terminal
    simp [remaining, terminal]

/-- A verdict with the stored attempt count uses up part of what remains. -/
theorem remaining_settle_lt {entry : Entry Id Key Time Body} (verdict : Verdict)
    (due now : Time) (isOpen : entry.phase.terminal = false) :
    (entry.settle verdict entry.attempts entry.card.ceiling due now).remaining <
      entry.remaining := by
  have positive := remaining_pos isOpen
  cases verdict with
  | done =>
      have closed : (entry.settle .done entry.attempts entry.card.ceiling due
          now).remaining = 0 := by simp [settle, finish, remaining, Phase.terminal]
      omega
  | terminal message =>
      have closed : (entry.settle (.terminal message) entry.attempts entry.card.ceiling
          due now).remaining = 0 := by simp [settle, fail, remaining, Phase.terminal]
      omega
  | retryable message =>
      simp only [settle]
      split
      · have closed : (entry.fail message now).remaining = 0 := by
          simp [fail, remaining, Phase.terminal]
        omega
      · next below =>
          rw [remaining_of_open isOpen, remaining_of_open (by rfl)]
          simp only [retry]
          omega

end Entry

theorem backlog_eq_zero {entries : List (Entry Id Key Time Body)} :
    backlog entries = 0 ↔ ∀ entry ∈ entries, entry.phase.terminal = true := by
  simp [backlog, List.sum_eq_zero_iff_forall_eq_nat, Entry.remaining_eq_zero]

/-- An update that never adds to what remains does not add to the backlog. -/
theorem backlog_updateWhere_le {condition : Entry Id Key Time Body → Bool}
    {assign : Entry Id Key Time Body → Entry Id Key Time Body}
    {entries : List (Entry Id Key Time Body)}
    (notMore : ∀ entry ∈ entries, condition entry = true →
      (assign entry).remaining ≤ entry.remaining) :
    backlog (updateWhere condition assign entries) ≤ backlog entries := by
  induction entries with
  | nil => simp [backlog]
  | cons entry entries ih =>
      have tail := ih fun item membership =>
        notMore item (List.mem_cons_of_mem _ membership)
      have head : (if condition entry then assign entry else entry).remaining ≤
          entry.remaining := by
        split
        next holds => exact notMore entry (List.mem_cons_self) holds
        next => exact le_refl _
      simp only [backlog, updateWhere_cons, List.map_cons, List.sum_cons] at tail ⊢
      omega

/-- If it takes something away from one entry, it takes something away from the
backlog. -/
theorem backlog_updateWhere_lt {condition : Entry Id Key Time Body → Bool}
    {assign : Entry Id Key Time Body → Entry Id Key Time Body}
    {entries : List (Entry Id Key Time Body)}
    (notMore : ∀ entry ∈ entries, condition entry = true →
      (assign entry).remaining ≤ entry.remaining)
    {entry : Entry Id Key Time Body} (membership : entry ∈ entries)
    (holds : condition entry = true)
    (less : (assign entry).remaining < entry.remaining) :
    backlog (updateWhere condition assign entries) < backlog entries := by
  induction entries with
  | nil => simp at membership
  | cons head entries ih =>
      have tailNotMore : ∀ item ∈ entries, condition item = true →
          (assign item).remaining ≤ item.remaining := fun item itemMem =>
        notMore item (List.mem_cons_of_mem _ itemMem)
      have headNotMore : (if condition head then assign head else head).remaining ≤
          head.remaining := by
        split
        next here => exact notMore head List.mem_cons_self here
        next => exact le_refl _
      have tailLe := backlog_updateWhere_le tailNotMore
      rcases List.mem_cons.mp membership with rfl | later
      · simp only [backlog, updateWhere_cons, List.map_cons, List.sum_cons, holds,
          ↓reduceIte] at tailLe ⊢
        omega
      · have tailLt := ih tailNotMore later
        simp only [backlog, updateWhere_cons, List.map_cons, List.sum_cons] at tailLt ⊢
        omega

section Order

variable [LinearOrder Time]

/-- A claim neither finishes nor reopens an entry. -/
theorem backlog_claim {fifo : Bool} {now lease : Time}
    {entries batch : List (Entry Id Key Time Body)} {chosen : Id → Bool}
    (lends : Lends fifo now lease entries chosen batch) :
    backlog (lend chosen lease now (sweep now entries)) ≤ backlog entries := by
  have lent : backlog (lend chosen lease now (sweep now entries)) ≤
      backlog (sweep now entries) := by
    apply backlog_updateWhere_le
    intro entry membership picked
    have pending := (lends.ready entry membership picked).pending
    simp [Entry.remaining, Entry.take, pending, Phase.terminal]
  have swept : backlog (sweep now entries) ≤ backlog entries := by
    apply backlog_updateWhere_le
    intro entry _ isExpired
    have processing := (Entry.expired_eq_true.mp isExpired).1
    simp [Entry.remaining, Entry.release, processing, Phase.terminal]
  exact lent.trans swept

/-- When every lease is over and every entry is due, some open entry is ready: the
one with the smallest stamp is blocked by nothing. -/
theorem exists_ready {now : Time} {entries : List (Entry Id Key Time Body)}
    (leased : ∀ entry ∈ entries, entry.WellLeased)
    (ended : ∀ entry ∈ entries, ∀ lease, entry.lease = some lease → lease < now)
    (due : ∀ entry ∈ entries, entry.due ≤ now)
    {someOpen : Entry Id Key Time Body} (membership : someOpen ∈ entries)
    (isOpen : someOpen.phase.terminal = false) (fifo : Bool) :
    ∃ entry ∈ sweep now entries, entry.Ready fifo now (sweep now entries) := by
  -- After the sweep an open entry is pending and still due.
  have sweptPending : ∀ entry ∈ sweep now entries, entry.phase.terminal = false →
      entry.phase = .pending ∧ entry.due ≤ now := by
    intro entry entryMem entryOpen
    obtain ⟨earlier, earlierMem, ⟨_, rfl⟩ | ⟨notExpired, rfl⟩⟩ :=
      mem_updateWhere.mp entryMem
    · exact ⟨rfl, due earlier earlierMem⟩
    · refine ⟨?_, due entry earlierMem⟩
      cases phase : entry.phase with
      | pending => rfl
      | processing =>
          obtain ⟨lease, leaseEq⟩ :=
            Option.isSome_iff_exists.mp ((leased entry earlierMem).mp phase)
          have isExpired := Entry.expired_eq_true.mpr
            ⟨phase, lease, leaseEq, ended entry earlierMem lease leaseEq⟩
          simp [isExpired] at notExpired
      | done | failed => simp [phase, Phase.terminal] at entryOpen
  obtain ⟨sweptOpen, sweptMem, sweptOpenness⟩ :
      ∃ entry ∈ sweep now entries, entry.phase.terminal = false := by
    cases isExpired : someOpen.expired now with
    | true => exact ⟨_, mem_updateWhere_of membership isExpired, rfl⟩
    | false => exact ⟨someOpen, mem_updateWhere_of_not membership isExpired, isOpen⟩
  let openEntries := (sweep now entries).filter fun entry => !entry.phase.terminal
  have nonempty : openEntries ≠ [] :=
    List.ne_nil_of_mem (List.mem_filter.mpr ⟨sweptMem, by simp [sweptOpenness]⟩)
  cases oldest : openEntries.argmin fun entry => entry.card.stamp with
  | none => exact absurd (List.argmin_eq_none.mp oldest) nonempty
  | some entry =>
      have entryMem := List.mem_filter.mp (List.argmin_mem oldest)
      have entryOpen : entry.phase.terminal = false := by simpa using entryMem.2
      obtain ⟨pending, isDue⟩ := sweptPending entry entryMem.1 entryOpen
      refine ⟨entry, entryMem.1, pending, isDue, ?_⟩
      intro _ _ older olderMem blocks
      have smallest := List.le_of_mem_argmin (f := fun entry => entry.card.stamp)
        (List.mem_filter.mpr ⟨olderMem, by simp [blocks.2.2]⟩) oldest
      exact absurd blocks.2.1 (not_lt.mpr smallest)

end Order

end Pactix.Queue
