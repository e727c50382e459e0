import Mathlib.Logic.Function.Basic
import Mathlib.Logic.Relation
import Mathlib.Order.Defs.LinearOrder
import Pactix.Foundation.Table

/-!
# Leased work queues

The purpose of a durable work queue, independent of how it is stored: entries
wait, are lent to a worker under a lease, and end in a terminal phase.  Workers
keep the entries they were lent and report one verdict for each of them, possibly
long after the lease has run out.

The transition relation is the single description of what can happen; every
invariant of the later modules is derived from it.
-/

namespace Pactix.Queue

open Foundation

/-- The life of an entry. -/
inductive Phase where
  | pending
  | processing
  | done
  | failed
  deriving DecidableEq, Repr

/-- Phases that no worker is lent again. -/
def Phase.terminal : Phase → Bool
  | .pending => false
  | .processing => false
  | .done => true
  | .failed => true

/-- What a worker found out about an entry it was lent. -/
inductive Verdict where
  | done
  | retryable (message : String)
  | terminal (message : String)
  deriving DecidableEq, Repr

/-- The part of an entry that is fixed when it is appended.  `key` is the
ordering group, `stamp` the position in it, `ceiling` the attempt limit. -/
structure Card (Id Key Time Body : Type) where
  id : Id
  key : Option Key
  stamp : Time
  ceiling : Int
  body : Body
  deriving DecidableEq, Repr

/-- A queue entry: its fixed card and its delivery state. -/
structure Entry (Id Key Time Body : Type) where
  card : Card Id Key Time Body
  phase : Phase
  attempts : Int
  due : Time
  lease : Option Time
  error : Option String
  updated : Time
  finished : Option Time
  deriving DecidableEq, Repr

variable {Id Key Time Body Worker : Type}

namespace Entry

/-- A newly appended entry. -/
structure Fresh (entry : Entry Id Key Time Body) : Prop where
  pending : entry.phase = .pending
  attempts : entry.attempts = 0
  lease : entry.lease = none
  error : entry.error = none
  finished : entry.finished = none

/-- Give a lent entry back without a verdict. -/
def release (now : Time) (entry : Entry Id Key Time Body) : Entry Id Key Time Body :=
  { entry with phase := .pending, lease := none, updated := now }

/-- Lend an entry. -/
def take (lease now : Time) (entry : Entry Id Key Time Body) : Entry Id Key Time Body :=
  { entry with phase := .processing, lease := some lease, updated := now }

def finish (now : Time) (entry : Entry Id Key Time Body) : Entry Id Key Time Body :=
  { entry with
    phase := .done, lease := none, finished := some now, updated := now }

def retry (message : String) (due now : Time) (entry : Entry Id Key Time Body) :
    Entry Id Key Time Body :=
  { entry with
    phase := .pending, attempts := entry.attempts + 1, due, lease := none,
    error := some message, updated := now }

def fail (message : String) (now : Time) (entry : Entry Id Key Time Body) :
    Entry Id Key Time Body :=
  { entry with
    phase := .failed, attempts := entry.attempts + 1, lease := none,
    error := some message, updated := now }

/-- Apply a verdict.  Whether a retryable verdict is final is decided with the
attempt count and the ceiling that the worker was lent, not with the stored
ones. -/
def settle (verdict : Verdict) (attempts ceiling : Int) (due now : Time)
    (entry : Entry Id Key Time Body) : Entry Id Key Time Body :=
  match verdict with
  | .done => entry.finish now
  | .retryable message =>
      if attempts + 1 ≥ ceiling then entry.fail message now
      else entry.retry message due now
  | .terminal message => entry.fail message now

@[simp] theorem card_release (now : Time) (entry : Entry Id Key Time Body) :
    (entry.release now).card = entry.card := rfl

@[simp] theorem card_take (lease now : Time) (entry : Entry Id Key Time Body) :
    (entry.take lease now).card = entry.card := rfl

@[simp] theorem card_settle (verdict : Verdict) (attempts ceiling : Int)
    (due now : Time) (entry : Entry Id Key Time Body) :
    (entry.settle verdict attempts ceiling due now).card = entry.card := by
  cases verdict with
  | done => rfl
  | terminal => rfl
  | retryable message => simp only [settle]; split <;> rfl

/-- A verdict ends the loan: the entry is not left in processing. -/
theorem settle_phase_ne (verdict : Verdict) (attempts ceiling : Int)
    (due now : Time) (entry : Entry Id Key Time Body) :
    (entry.settle verdict attempts ceiling due now).phase ≠ .processing := by
  cases verdict with
  | done => simp [settle, finish]
  | terminal => simp [settle, fail]
  | retryable message => simp only [settle]; split <;> simp [fail, retry]

@[simp] theorem lease_settle (verdict : Verdict) (attempts ceiling : Int)
    (due now : Time) (entry : Entry Id Key Time Body) :
    (entry.settle verdict attempts ceiling due now).lease = none := by
  cases verdict with
  | done => rfl
  | terminal => rfl
  | retryable message => simp only [settle]; split <;> rfl

section Order

variable [LinearOrder Time]

/-- A lent entry whose lease ended strictly before `now`. -/
def expired (now : Time) (entry : Entry Id Key Time Body) : Bool :=
  decide (entry.phase = .processing) && entry.lease.any fun lease => decide (lease < now)

theorem expired_eq_true {now : Time} {entry : Entry Id Key Time Body} :
    entry.expired now = true ↔
      entry.phase = .processing ∧ ∃ lease, entry.lease = some lease ∧ lease < now := by
  simp [expired, Option.any_eq_true]

/-- An older entry of the same group that is still open. -/
def Blocks (older candidate : Entry Id Key Time Body) : Prop :=
  older.card.key = candidate.card.key ∧ older.card.stamp < candidate.card.stamp ∧
    older.phase.terminal = false

/-- An entry that may be lent.  With `fifo`, an entry of a group waits for every
older entry of the group. -/
structure Ready (fifo : Bool) (now : Time) (entries : List (Entry Id Key Time Body))
    (candidate : Entry Id Key Time Body) : Prop where
  pending : candidate.phase = .pending
  due : candidate.due ≤ now
  gate : fifo = true → candidate.card.key ≠ none →
    ∀ older ∈ entries, ¬older.Blocks candidate

end Order

end Entry

section Lending

variable [LinearOrder Time]

/-- Take back every lent entry whose lease has ended. -/
def sweep (now : Time) (entries : List (Entry Id Key Time Body)) :
    List (Entry Id Key Time Body) :=
  updateWhere (Entry.expired now) (Entry.release now) entries

/-- The entries that `sweep` takes back. -/
def evicted (now : Time) (entries : List (Entry Id Key Time Body)) : List Id :=
  (entries.filter (Entry.expired now)).map fun entry => entry.card.id

/-- Lend the chosen entries. -/
def lend (chosen : Id → Bool) (lease now : Time)
    (entries : List (Entry Id Key Time Body)) : List (Entry Id Key Time Body) :=
  updateWhere (fun entry => chosen entry.card.id) (Entry.take lease now) entries

/-- What a worker may be lent: a batch that lists the chosen entries in any
order, all of them ready after the sweep. -/
structure Lends (fifo : Bool) (now lease : Time)
    (entries : List (Entry Id Key Time Body)) (chosen : Id → Bool)
    (batch : List (Entry Id Key Time Body)) : Prop where
  ready : ∀ entry ∈ sweep now entries, chosen entry.card.id = true →
    entry.Ready fifo now (sweep now entries)
  batch_perm : batch.Perm
    (((sweep now entries).filter fun entry => chosen entry.card.id).map
      (Entry.take lease now))

end Lending

/-- What a worker knows during one pass.  `evicted` is a history variable: the
entries taken back by others since they were lent to this worker. -/
structure Session (Id Key Time Body : Type) where
  reading : Option Time := none
  held : List (Entry Id Key Time Body) := []
  evicted : List Id := []
  decided : Option (Entry Id Key Time Body × Verdict) := none

/-- The queue, its clock, the workers' sessions, and the history of verdicts. -/
structure State (Worker Id Key Time Body : Type) where
  entries : List (Entry Id Key Time Body)
  clock : Time
  session : Worker → Session Id Key Time Body
  verdicts : List (Entry Id Key Time Body × Verdict)

/-- An empty queue with idle workers. -/
def State.initial (clock : Time) : State Worker Id Key Time Body where
  entries := []
  clock
  session _ := {}
  verdicts := []

/-- What can happen to a queue. -/
inductive Action (Worker Id Key Time Body : Type) where
  | append (entry : Entry Id Key Time Body)
  | start (worker : Worker)
  | read (worker : Worker) (time : Time)
  | claim (worker : Worker) (time now lease : Time) (fifo : Bool)
      (chosen : Id → Bool) (batch : List (Entry Id Key Time Body))
  | consult (worker : Worker) (time : Time)
  | decide (worker : Worker) (time : Time) (entry : Entry Id Key Time Body)
      (verdict : Verdict)
  | record (worker : Worker) (time due : Time)

section Step

variable [DecidableEq Worker] [DecidableEq Id] [LinearOrder Time]

/-- Sessions after a claim: the worker holds its batch, and everyone else has
lost what was swept. -/
def claimSessions (session : Worker → Session Id Key Time Body) (worker : Worker)
    (swept : List Id) (batch : List (Entry Id Key Time Body)) :
    Worker → Session Id Key Time Body := fun other =>
  if other = worker then
    { (session worker) with held := batch, evicted := [], decided := none }
  else
    { (session other) with evicted := (session other).evicted ++ swept }

/-- The transition relation. -/
inductive Step : State Worker Id Key Time Body → Action Worker Id Key Time Body →
    State Worker Id Key Time Body → Prop where
  /-- A producer commits a new entry. -/
  | append {state} (entry : Entry Id Key Time Body) (fresh : entry.Fresh)
      (unknown : entry.card.id ∉ state.entries.map fun entry => entry.card.id) :
      Step state (.append entry) { state with entries := state.entries ++ [entry] }
  /-- A worker begins a pass, or loses what it was doing. -/
  | start {state} (worker : Worker) :
      Step state (.start worker)
        { state with session := Function.update state.session worker {} }
  /-- A worker reads the clock for its pass. -/
  | read {state} (worker : Worker) (time : Time) :
      Step state (.read worker time)
        { state with
          clock := time
          session := Function.update state.session worker
            { state.session worker with reading := some time } }
  /-- One transaction sweeps expired entries and lends a batch, with the reading
  the worker took before. -/
  | claim {state} (worker : Worker) (time now lease : Time) (fifo : Bool)
      (chosen : Id → Bool) (batch : List (Entry Id Key Time Body))
      (armed : (state.session worker).reading = some now)
      (lends : Lends fifo now lease state.entries chosen batch) :
      Step state (.claim worker time now lease fifo chosen batch)
        { state with
          entries := lend chosen lease now (sweep now state.entries)
          clock := time
          session := claimSessions state.session worker
            (evicted now state.entries) batch }
  /-- A worker works on an entry without reaching a verdict. -/
  | consult {state} (worker : Worker) (time : Time) :
      Step state (.consult worker time) { state with clock := time }
  /-- A worker reaches a verdict about the entry it is working on. -/
  | decide {state} (worker : Worker) (time : Time) (entry : Entry Id Key Time Body)
      (verdict : Verdict)
      (head : (state.session worker).held.head? = some entry) :
      Step state (.decide worker time entry verdict)
        { state with
          clock := time
          session := Function.update state.session worker
            { state.session worker with decided := some (entry, verdict) }
          verdicts := (entry, verdict) :: state.verdicts }
  /-- A worker applies its verdict, whatever has become of the entry. -/
  | record {state} (worker : Worker) (time due : Time)
      (entry : Entry Id Key Time Body) (rest : List (Entry Id Key Time Body))
      (verdict : Verdict)
      (held : (state.session worker).held = entry :: rest)
      (decided : (state.session worker).decided = some (entry, verdict)) :
      Step state (.record worker time due)
        { state with
          entries := updateWhere (fun stored => stored.card.id = entry.card.id)
            (Entry.settle verdict entry.attempts entry.card.ceiling due time)
            state.entries
          clock := time
          session := Function.update state.session worker
            { state.session worker with held := rest, decided := none } }

/-- A step that a discipline allows. -/
def Next (permitted : State Worker Id Key Time Body →
      Action Worker Id Key Time Body → Prop)
    (before after : State Worker Id Key Time Body) : Prop :=
  ∃ action, permitted before action ∧ Step before action after

end Step

/-! ## Disciplines -/

section Disciplines

variable [LinearOrder Time]

/-- The time shown by the clock when an action happens. -/
def Action.time : Action Worker Id Key Time Body → Option Time
  | .append _ => none
  | .start _ => none
  | .read _ time => some time
  | .claim _ time _ _ _ _ _ => some time
  | .consult _ time => some time
  | .decide _ time _ _ => some time
  | .record _ time _ => some time

/-- The clock never goes back. -/
def Clocked (state : State Worker Id Key Time Body)
    (action : Action Worker Id Key Time Body) : Prop :=
  ∀ time, action.time = some time → state.clock ≤ time

/-- A verdict is recorded no later than the lease under which the entry was lent. -/
def Timely (state : State Worker Id Key Time Body)
    (action : Action Worker Id Key Time Body) : Prop :=
  ∀ worker time due, action = .record worker time due →
    ∀ entry verdict, (state.session worker).decided = some (entry, verdict) →
      ∃ lease, entry.lease = some lease ∧ time ≤ lease

/-- A verdict is recorded only by a worker from whom the entry has not been
taken back. -/
def Current (state : State Worker Id Key Time Body)
    (action : Action Worker Id Key Time Body) : Prop :=
  ∀ worker time due, action = .record worker time due →
    ∀ entry verdict, (state.session worker).decided = some (entry, verdict) →
      entry.card.id ∉ (state.session worker).evicted

/-- Every claim respects the groups. -/
def Grouped (_ : State Worker Id Key Time Body)
    (action : Action Worker Id Key Time Body) : Prop :=
  ∀ worker time now lease fifo chosen batch,
    action = .claim worker time now lease fifo chosen batch → fifo = true

end Disciplines

end Pactix.Queue
