import Pactix.Queue.Integrity

/-!
# The queue of one entry

Entries share a queue, but what happens to one of them is itself a run of a queue that
never holds anything else.  Disciplines about one entry become disciplines of its queue.
-/

namespace Pactix.Queue

open Foundation

variable {Id Key Time Body Worker : Type} [DecidableEq Id]

/-- Is the entry the one with the id? -/
def Entry.named (id : Id) (entry : Entry Id Key Time Body) : Bool :=
  decide (entry.card.id = id)

/-- A session as far as the entry is concerned. -/
def Session.only (id : Id) (session : Session Id Key Time Body) : Session Id Key Time Body where
  reading := session.reading
  held := session.held.filter (Entry.named id)
  evicted := session.evicted.filter fun lost => decide (lost = id)
  decided := session.decided.filter fun decision => decision.1.named id

/-- A queue as far as the entry is concerned. -/
def State.only (id : Id) (state : State Worker Id Key Time Body) :
    State Worker Id Key Time Body where
  entries := state.entries.filter (Entry.named id)
  clock := state.clock
  session worker := (state.session worker).only id
  verdicts := state.verdicts.filter fun verdict => verdict.1.named id

/-- What an action is as far as the entry is concerned. -/
def Action.only (id : Id) (state : State Worker Id Key Time Body) :
    Action Worker Id Key Time Body → Option (Action Worker Id Key Time Body)
  | .append entry => if entry.named id then some (.append entry) else none
  | .start worker => some (.start worker)
  | .read worker time => some (.read worker time)
  | .claim worker time now lease fifo chosen batch =>
      some (.claim worker time now lease fifo chosen (batch.filter (Entry.named id)))
  | .consult worker time => some (.consult worker time)
  | .decide worker time entry verdict =>
      if entry.named id then some (.decide worker time entry verdict)
      else some (.consult worker time)
  | .record worker time due =>
      if ((state.session worker).only id).decided.isSome then some (.record worker time due)
      else some (.consult worker time)

section Filter

variable [LinearOrder Time]

theorem filter_sweep (id : Id) (now : Time) (entries : List (Entry Id Key Time Body)) :
    (sweep now entries).filter (Entry.named id) =
      sweep now (entries.filter (Entry.named id)) := by
  have kept : ∀ entry : Entry Id Key Time Body,
      (entry.release now).named id = entry.named id := fun _ => rfl
  exact filter_updateWhere kept entries

omit [LinearOrder Time] in
theorem filter_lend (id : Id) (chosen : Id → Bool) (lease now : Time)
    (entries : List (Entry Id Key Time Body)) :
    (lend chosen lease now entries).filter (Entry.named id) =
      lend chosen lease now (entries.filter (Entry.named id)) := by
  have kept : ∀ entry : Entry Id Key Time Body,
      (entry.take lease now).named id = entry.named id := fun _ => rfl
  exact filter_updateWhere kept entries

theorem filter_evicted (id : Id) (now : Time) (entries : List (Entry Id Key Time Body)) :
    (evicted now entries).filter (fun lost => decide (lost = id)) =
      evicted now (entries.filter (Entry.named id)) := by
  have look : (fun lost => decide (lost = id)) ∘ (fun entry : Entry Id Key Time Body =>
      entry.card.id) = Entry.named id := rfl
  rw [evicted, evicted, List.filter_map, look, List.filter_filter, List.filter_filter]
  congr 2
  funext entry
  exact Bool.and_comm _ _

/-- A lending restricted to one entry is a lending. -/
theorem Lends.only {fifo : Bool} {now lease : Time} {entries : List (Entry Id Key Time Body)}
    {chosen : Id → Bool} {batch : List (Entry Id Key Time Body)}
    (lends : Lends fifo now lease entries chosen batch) (id : Id) :
    Lends fifo now lease (entries.filter (Entry.named id)) chosen
      (batch.filter (Entry.named id)) where
  ready := by
    rw [← filter_sweep]
    intro entry membership picked
    have ready := lends.ready entry (List.mem_filter.mp membership).1 picked
    exact ⟨ready.pending, ready.due, fun gated keyed older olderMem =>
      ready.gate gated keyed older (List.mem_filter.mp olderMem).1⟩
  batch_perm := by
    have look : Entry.named id ∘ Entry.take lease now =
        (Entry.named id : Entry Id Key Time Body → Bool) := rfl
    have perm := lends.batch_perm.filter (Entry.named id)
    rw [List.filter_map, look, List.filter_filter] at perm
    rw [← filter_sweep, List.filter_filter]
    refine perm.trans (.of_eq ?_)
    congr 2
    funext entry
    exact Bool.and_comm _ _

end Filter

section Step

variable [DecidableEq Worker] [LinearOrder Time]
variable {before after : State Worker Id Key Time Body} {action : Action Worker Id Key Time Body}

omit [DecidableEq Worker] [LinearOrder Time] in
/-- Sessions that look the same as far as the entry is concerned. -/
theorem only_update [DecidableEq Worker] (id : Id)
    (session : Worker → Session Id Key Time Body) (worker : Worker)
    (changed : Session Id Key Time Body) :
    (fun other => (Function.update session worker changed other).only id) =
      Function.update (fun other => (session other).only id) worker (changed.only id) := by
  funext other
  by_cases same : other = worker
  · subst same
    simp
  · simp [same]

omit [DecidableEq Id] [LinearOrder Time] in
/-- A session that changes nothing as far as the entry is concerned. -/
theorem update_only [DecidableEq Id] (id : Id) (session : Worker → Session Id Key Time Body)
    {worker : Worker} {changed : Session Id Key Time Body}
    (same : changed.only id = (session worker).only id) :
    (fun other => (Function.update session worker changed other).only id) =
      fun other => (session other).only id := by
  rw [only_update, same]
  exact Function.update_eq_self worker fun other => (session other).only id

omit [LinearOrder Time] in
theorem claimSessions_only (id : Id) (session : Worker → Session Id Key Time Body)
    (worker : Worker) (swept : List Id) (batch : List (Entry Id Key Time Body)) :
    (fun other => (claimSessions session worker swept batch other).only id) =
      claimSessions (fun other => (session other).only id) worker
        (swept.filter fun lost => decide (lost = id)) (batch.filter (Entry.named id)) := by
  funext other
  by_cases same : other = worker
  · simp [claimSessions, same, Session.only]
  · simp [claimSessions, same, Session.only, List.filter_append]

omit [DecidableEq Worker] [LinearOrder Time] in
/-- A decision is about the entry at the head of the batch. -/
theorem Integrity.decided_only {state : State Worker Id Key Time Body} (sound : Integrity state)
    {worker : Worker} {entry : Entry Id Key Time Body}
    (head : (state.session worker).held.head? = some entry) {id : Id}
    (other : entry.named id = false) : ((state.session worker).only id).decided = none := by
  cases decided : (state.session worker).decided with
  | none => simp [Session.only, decided]
  | some decision =>
      have about := ((sound.sessions worker).decided_head decision.1 decision.2 decided).1
      rw [head, Option.some.injEq] at about
      simp [Session.only, decided, ← about, other]

/-- What happens to an entry is a run of its queue. -/
theorem Step.only (id : Id) (sound : Integrity before) (step : Step before action after) :
    match action.only id before with
    | some own => Step (before.only id) own (after.only id)
    | none => after.only id = before.only id := by
  cases step with
  | append entry fresh unknown =>
      simp only [Action.only]
      cases named : entry.named id with
      | false => simp [State.only, named]
      | true =>
          have stranger : entry.card.id ∉
              (before.only id).entries.map fun entry => entry.card.id := fun known =>
            unknown ((List.filter_sublist.map _).subset known)
          have appended : Step (before.only id) _ _ := .append entry fresh stranger
          simpa [State.only, named] using appended
  | start worker =>
      have started : Step (before.only id) _ _ := .start worker
      simp only [Action.only, State.only, only_update]
      exact started
  | read worker time =>
      have read : Step (before.only id) _ _ := .read worker time
      simp only [Action.only, State.only, only_update]
      exact read
  | claim worker time now lease fifo chosen batch armed lends =>
      have claimed : Step (before.only id) _ _ := .claim worker time now lease fifo chosen
        (batch.filter (Entry.named id)) armed (lends.only id)
      simp only [Action.only, State.only, claimSessions_only, filter_lend, filter_sweep,
        filter_evicted]
      exact claimed
  | consult worker time => exact .consult worker time
  | decide worker time entry verdict head =>
      simp only [Action.only]
      cases named : entry.named id with
      | true =>
          have atHead : ((before.only id).session worker).held.head? = some entry := by
            obtain ⟨rest, held⟩ := List.head?_eq_some_iff.mp head
            simp [State.only, Session.only, held, named]
          have decided : Step (before.only id) _ _ := .decide worker time entry verdict atHead
          have changed : Session.only id
              { before.session worker with decided := some (entry, verdict) } =
                { (before.session worker).only id with decided := some (entry, verdict) } := by
            simp [Session.only, named]
          simp only [if_true, State.only, only_update, changed, List.filter_cons, named]
          exact decided
      | false =>
          have consulted : Step (before.only id) _ _ := .consult worker time
          have unchanged : Session.only id
              { before.session worker with decided := some (entry, verdict) } =
                (before.session worker).only id := by
            have undecided := sound.decided_only head named
            simp only [Session.only] at undecided ⊢
            simp [undecided, named]
          simp only [State.only, update_only id before.session unchanged, List.filter_cons, named]
          exact consulted
  | record worker time due entry rest verdict held decided =>
      have kept : ∀ stored : Entry Id Key Time Body,
          (stored.settle verdict entry.attempts entry.card.ceiling due time).named id =
            stored.named id := by
        intro stored
        simp only [Entry.named, Entry.card_settle]
      cases named : entry.named id with
      | true =>
          have own : ((before.only id).session worker).held =
              entry :: rest.filter (Entry.named id) := by
            simp [State.only, Session.only, held, named]
          have settled : ((before.only id).session worker).decided = some (entry, verdict) := by
            simp [State.only, Session.only, decided, named]
          have recorded : Step (before.only id) _ _ := .record worker time due entry _ verdict
            own settled
          have changed : Session.only id
              { before.session worker with held := rest, decided := none } =
                { (before.session worker).only id with
                  held := rest.filter (Entry.named id), decided := none } := rfl
          have some : ((before.session worker).only id).decided.isSome = true := by
            rw [show ((before.session worker).only id).decided = some (entry, verdict) from settled]
            rfl
          simp only [Action.only, some, if_true, State.only, only_update, changed,
            filter_updateWhere kept]
          exact recorded
      | false =>
          have consulted : Step (before.only id) _ _ := .consult worker time
          have unchanged : Session.only id
              { before.session worker with held := rest, decided := none } =
                (before.session worker).only id := by
            simp [Session.only, held, decided, named, Option.filter]
          have unseen : ∀ stored : Entry Id Key Time Body,
              Decidable.decide (stored.card.id = entry.card.id) = true →
                stored.named id = false := by
            intro stored same
            rw [Entry.named, of_decide_eq_true same]
            exact named
          have none : ((before.session worker).only id).decided.isSome = false := by
            simp [Session.only, decided, named, Option.filter]
          simp only [Action.only, none, Bool.false_eq_true, if_false, State.only,
            update_only id before.session unchanged, filter_updateWhere_of_not kept unseen]
          exact consulted

end Step

end Pactix.Queue
