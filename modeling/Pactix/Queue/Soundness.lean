import Pactix.Queue.Integrity

/-!
# Well-formed entries

What the delivery state of an entry looks like, whoever has written to it, in whatever
phase and order: the columns that depend on each other agree.
-/

namespace Pactix.Queue

open Foundation

variable {Id Key Time Body : Type}

/-- The delivery state of an entry agrees with its phase and its attempts. -/
structure Entry.WellFormed (entry : Entry Id Key Time Body) : Prop where
  leased : entry.WellLeased
  finished : entry.phase = .done → entry.finished.isSome = true
  counted : 0 ≤ entry.attempts
  attempted : entry.attempts = 0 ↔ entry.error = none
  failed : entry.phase = .failed → 1 ≤ entry.attempts

namespace Entry

theorem Fresh.wellFormed {entry : Entry Id Key Time Body} (fresh : entry.Fresh) :
    entry.WellFormed where
  leased := fresh.wellLeased
  finished := by simp [fresh.pending]
  counted := fresh.attempts.ge
  attempted := by simp [fresh.attempts, fresh.error]
  failed := by simp [fresh.pending]

namespace WellFormed

variable {entry : Entry Id Key Time Body} (sound : entry.WellFormed)
include sound

theorem release (now : Time) : (entry.release now).WellFormed where
  leased := wellLeased_release now entry
  finished := nofun
  counted := sound.counted
  attempted := sound.attempted
  failed := nofun

theorem take (lease now : Time) : (entry.take lease now).WellFormed where
  leased := wellLeased_take lease now entry
  finished := nofun
  counted := sound.counted
  attempted := sound.attempted
  failed := nofun

theorem finish (now : Time) : (entry.finish now).WellFormed where
  leased := by simp [WellLeased, Entry.finish]
  finished := fun _ => rfl
  counted := sound.counted
  attempted := sound.attempted
  failed := nofun

/-- Whoever records a failure counts it and leaves an error. -/
theorem counted_failure :
    1 ≤ entry.attempts + 1 ∧ ¬entry.attempts + 1 = 0 := by
  have counted := sound.counted
  constructor <;> omega

theorem retry (message : String) (due now : Time) : (entry.retry message due now).WellFormed where
  leased := by simp [WellLeased, Entry.retry]
  finished := nofun
  counted := zero_le_one.trans sound.counted_failure.1
  attempted := ⟨fun zero => absurd zero sound.counted_failure.2, nofun⟩
  failed := nofun

theorem fail (message : String) (now : Time) : (entry.fail message now).WellFormed where
  leased := by simp [WellLeased, Entry.fail]
  finished := nofun
  counted := zero_le_one.trans sound.counted_failure.1
  attempted := ⟨fun zero => absurd zero sound.counted_failure.2, nofun⟩
  failed := fun _ => sound.counted_failure.1

end WellFormed

end Entry

/-- Entries of a table that are all well formed. -/
def WellFormed (entries : List (Entry Id Key Time Body)) : Prop :=
  ∀ entry ∈ entries, entry.WellFormed

namespace WellFormed

variable {entries : List (Entry Id Key Time Body)} (sound : WellFormed entries)
include sound

theorem append {entry : Entry Id Key Time Body} (fresh : entry.Fresh) :
    WellFormed (entries ++ [entry]) := by
  intro stored membership
  rcases List.mem_append.mp membership with earlier | new
  · exact sound stored earlier
  · rw [List.mem_singleton.mp new]
    exact fresh.wellFormed

theorem lend (chosen : Id → Bool) (lease now : Time) :
    WellFormed (lend chosen lease now entries) :=
  forall_updateWhere (fun _ sound => sound.take lease now) sound

theorem sweep [LinearOrder Time] (now : Time) : WellFormed (sweep now entries) :=
  forall_updateWhere (fun _ sound => sound.release now) sound

end WellFormed

end Pactix.Queue
