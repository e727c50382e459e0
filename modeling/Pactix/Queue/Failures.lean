import Mathlib.Data.Finset.Card
import Pactix.Queue.Outcome

/-!
# Failures behind attempts

Every attempt that an entry counts was a failing verdict about it, and no verdict is counted
twice: a worker that still has a verdict to record has one that is not counted yet.
-/

namespace Pactix.Queue

open Foundation

variable {Id Key Time Body Worker : Type}

/-- The message of a failing verdict. -/
def Verdict.failure : Verdict → Option String
  | .done => none
  | .retryable message => some message
  | .terminal message => some message

/-- The verdict is a failure of the entry with the id. -/
def Fails [DecidableEq Id] (id : Id) (given : Entry Id Key Time Body × Verdict) : Bool :=
  decide (given.1.card.id = id) && given.2.failure.isSome

/-- The worker has a failure of the entry still to record. -/
def Session.Owes [DecidableEq Id] (session : Session Id Key Time Body) (id : Id) : Prop :=
  ∃ given, session.decided = some given ∧ Fails id given = true

theorem Entry.attempts_settle (verdict : Verdict) (attempts ceiling : Int) (due now : Time)
    (entry : Entry Id Key Time Body) :
    (entry.settle verdict attempts ceiling due now).attempts =
      entry.attempts + if verdict.failure.isSome then 1 else 0 := by
  cases verdict with
  | done => simp [settle, finish, Verdict.failure]
  | terminal message => simp [settle, fail, Verdict.failure]
  | retryable message =>
      simp only [settle, Verdict.failure, Option.isSome_some, if_true]
      split <;> rfl

/-- Only a failure changes the error of an entry, and to its own message. -/
theorem Entry.error_settle (verdict : Verdict) (attempts ceiling : Int) (due now : Time)
    (entry : Entry Id Key Time Body) :
    (entry.settle verdict attempts ceiling due now).error =
      if verdict.failure.isSome then verdict.failure else entry.error := by
  cases verdict with
  | done => simp [settle, finish, Verdict.failure]
  | terminal message => simp [settle, fail, Verdict.failure]
  | retryable message =>
      simp only [settle, Verdict.failure, Option.isSome_some, if_true]
      split <;> rfl

/-- The attempts of every entry, and the verdicts about it that are still to be recorded,
are backed by as many failures; its error is the message of one of them. -/
structure Backed [DecidableEq Id] (state : State Worker Id Key Time Body) : Prop where
  attempts : ∀ entry ∈ state.entries, ∀ owing : Finset Worker,
    (∀ worker ∈ owing, (state.session worker).Owes entry.card.id) →
      entry.attempts + owing.card ≤ state.verdicts.countP (Fails entry.card.id)
  error : ∀ entry ∈ state.entries, ∀ message, entry.error = some message →
    ∃ given ∈ state.verdicts, given.1.card = entry.card ∧ given.2.failure = some message

theorem Backed.initial [DecidableEq Id] (clock : Time) :
    Backed (State.initial clock : State Worker Id Key Time Body) where
  attempts := by simp [State.initial]
  error := by simp [State.initial]

section Step

variable [DecidableEq Worker] [DecidableEq Id] [LinearOrder Time]
variable {before after : State Worker Id Key Time Body}
variable {action : Action Worker Id Key Time Body}

omit [DecidableEq Worker] [DecidableEq Id] in
/-- Claims leave cards, attempts and errors alone. -/
theorem mem_claimed {chosen : Id → Bool} {lease now : Time}
    {entries : List (Entry Id Key Time Body)} {later : Entry Id Key Time Body}
    (membership : later ∈ lend chosen lease now (sweep now entries)) :
    ∃ earlier ∈ entries, later.card = earlier.card ∧ later.attempts = earlier.attempts ∧
      later.error = earlier.error := by
  obtain ⟨swept, sweptMem, taken⟩ := mem_updateWhere.mp membership
  obtain ⟨earlier, earlierMem, released⟩ := mem_updateWhere.mp sweptMem
  refine ⟨earlier, earlierMem, ?_⟩
  rcases taken with ⟨_, rfl⟩ | ⟨_, rfl⟩ <;> rcases released with ⟨_, rfl⟩ | ⟨_, rfl⟩ <;>
    exact ⟨rfl, rfl, rfl⟩

omit [DecidableEq Worker] [LinearOrder Time] in
/-- Nobody owes a verdict about an entry that is not stored yet. -/
theorem Integrity.known_of_owes (sound : Integrity before) {worker : Worker} {id : Id}
    (owes : (before.session worker).Owes id) :
    id ∈ before.entries.map fun entry => entry.card.id := by
  obtain ⟨⟨entry, verdict⟩, decided, fails⟩ := owes
  have head := ((sound.sessions worker).decided_head entry verdict decided).1
  have known := (sound.sessions worker).held_known entry (List.mem_of_head? head)
  simp only [Fails, Bool.and_eq_true, decide_eq_true_eq] at fails
  rw [← fails.1]
  simpa [State.cards] using List.mem_map_of_mem (f := Card.id) known

omit [LinearOrder Time] in
/-- A worker without a verdict is not among those that owe one. -/
theorem owes_before {session : Session Id Key Time Body} {worker other : Worker} {id : Id}
    (settled : session.decided = none)
    (owes : (Function.update before.session worker session other).Owes id) :
    other ≠ worker ∧ (before.session other).Owes id := by
  by_cases same : other = worker
  · subst same
    obtain ⟨given, decided, _⟩ := owes
    simp [settled] at decided
  · rw [Function.update_of_ne same] at owes
    exact ⟨same, owes⟩

omit [LinearOrder Time] in
/-- A new verdict backs its own worker. -/
theorem Backed.decide (backed : Backed before) {worker : Worker}
    {given : Entry Id Key Time Body × Verdict} {entry : Entry Id Key Time Body}
    (stored : entry ∈ before.entries) {owing : Finset Worker}
    (owe : ∀ other ∈ owing, (Function.update before.session worker
      { before.session worker with decided := some given } other).Owes entry.card.id) :
    entry.attempts + owing.card ≤ (given :: before.verdicts).countP (Fails entry.card.id) := by
  have others : ∀ other ∈ owing.erase worker, (before.session other).Owes entry.card.id := by
    intro other membership
    obtain ⟨different, listed⟩ := Finset.mem_erase.mp membership
    have owes := owe other listed
    rwa [Function.update_of_ne different] at owes
  have counted := backed.attempts entry stored _ others
  rw [List.countP_cons]
  by_cases listed : worker ∈ owing
  · obtain ⟨own, decided, fails⟩ := owe worker listed
    rw [Function.update_self, Option.some.injEq] at decided
    have card := Finset.card_erase_add_one listed
    rw [decided, if_pos fails]
    omega
  · rw [Finset.erase_eq_of_notMem listed] at counted
    split <;> omega

omit [LinearOrder Time] in
/-- A recorded verdict is taken from those that are owed. -/
theorem Backed.record (backed : Backed before) {worker : Worker}
    {recorded stored : Entry Id Key Time Body} {verdict : Verdict} {attempts ceiling : Int}
    {due now : Time} (decided : (before.session worker).decided = some (recorded, verdict))
    (membership : stored ∈ before.entries) (matched : stored.card.id = recorded.card.id)
    {owing : Finset Worker} (absent : worker ∉ owing)
    (owe : ∀ other ∈ owing, (before.session other).Owes stored.card.id) :
    (stored.settle verdict attempts ceiling due now).attempts + owing.card ≤
      before.verdicts.countP (Fails stored.card.id) := by
  rw [Entry.attempts_settle]
  by_cases failed : verdict.failure.isSome = true
  · have all : ∀ other ∈ insert worker owing, (before.session other).Owes stored.card.id := by
      intro other listed
      rcases Finset.mem_insert.mp listed with rfl | listed
      · exact ⟨_, decided, by simp [Fails, matched, failed]⟩
      · exact owe other listed
    have counted := backed.attempts stored membership _ all
    rw [Finset.card_insert_of_notMem absent] at counted
    rw [if_pos failed]
    omega
  · rw [if_neg failed, Int.add_zero]
    exact backed.attempts stored membership owing owe

/-- Every step keeps attempts backed, however late verdicts are recorded. -/
theorem Backed.step (sound : Integrity before) (backed : Backed before)
    (step : Step before action after) : Backed after := by
  cases step with
  | append appended fresh unknown =>
      constructor
      · intro entry membership owing owe
        rcases List.mem_append.mp membership with stored | new
        · exact backed.attempts entry stored owing owe
        · obtain rfl := List.mem_singleton.mp new
          have nobody : owing = ∅ := by
            apply Finset.eq_empty_of_forall_notMem
            intro worker listed
            exact unknown (sound.known_of_owes (owe worker listed))
          simp [nobody, fresh.attempts]
      · intro entry membership message failed
        rcases List.mem_append.mp membership with stored | new
        · exact backed.error entry stored message failed
        · obtain rfl := List.mem_singleton.mp new
          rw [fresh.error] at failed
          cases failed
  | start worker =>
      refine ⟨fun entry stored owing owe => ?_, backed.error⟩
      exact backed.attempts entry stored owing fun other listed =>
        (owes_before rfl (owe other listed)).2
  | read worker time =>
      refine ⟨fun entry stored owing owe => ?_, backed.error⟩
      apply backed.attempts entry stored owing
      intro other listed
      have owes : (Function.update before.session worker _ other).Owes _ := owe other listed
      by_cases same : other = worker
      · subst same
        rw [Function.update_self] at owes
        exact owes
      · rwa [Function.update_of_ne same] at owes
  | consult => exact ⟨backed.attempts, backed.error⟩
  | claim worker time now lease fifo chosen batch armed lends =>
      constructor
      · intro entry membership owing owe
        obtain ⟨earlier, stored, card, attempts, _⟩ := mem_claimed membership
        rw [card, attempts]
        apply backed.attempts earlier stored owing
        intro other listed
        obtain ⟨given, decided, fails⟩ := owe other listed
        simp only [claimSessions] at decided
        split at decided
        · cases decided
        · exact ⟨given, decided, card ▸ fails⟩
      · intro entry membership message failed
        obtain ⟨earlier, stored, card, _, error⟩ := mem_claimed membership
        rw [card]
        exact backed.error earlier stored message (error ▸ failed)
  | decide worker time decidedEntry verdict head =>
      constructor
      · intro entry stored owing owe
        exact backed.decide stored owe
      · intro entry stored message failed
        obtain ⟨given, membership, told⟩ := backed.error entry stored message failed
        exact ⟨given, List.mem_cons_of_mem _ membership, told⟩
  | record worker time due recorded rest verdict held decided =>
      have given := ((sound.sessions worker).decided_head recorded verdict decided).2
      have heldMem : recorded ∈ (before.session worker).held := by
        rw [held]
        exact List.mem_cons_self
      constructor
      · intro entry membership owing owe
        have earlier : ∀ other ∈ owing,
            other ≠ worker ∧ (before.session other).Owes entry.card.id :=
          fun other listed => owes_before rfl (owe other listed)
        have absent : worker ∉ owing := fun listed => (earlier worker listed).1 rfl
        obtain ⟨stored, storedMem, ⟨matched, rfl⟩ | ⟨_, rfl⟩⟩ := mem_updateWhere.mp membership
        · rw [Entry.card_settle] at earlier ⊢
          exact backed.record decided storedMem (by simpa using matched) absent
            fun other listed => (earlier other listed).2
        · exact backed.attempts entry storedMem owing fun other listed => (earlier other listed).2
      · intro entry membership message failed
        obtain ⟨stored, storedMem, ⟨matched, rfl⟩ | ⟨_, rfl⟩⟩ := mem_updateWhere.mp membership
        · rw [Entry.error_settle] at failed
          rw [Entry.card_settle]
          split at failed
          · exact ⟨_, given,
              (sound.card_of_held storedMem heldMem (by simpa using matched)).symm, failed⟩
          · exact backed.error stored storedMem message failed
        · exact backed.error entry storedMem message failed

end Step

end Pactix.Queue
