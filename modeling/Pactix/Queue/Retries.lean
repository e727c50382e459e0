import Pactix.Queue.Restriction
import Pactix.Queue.Tenure

/-!
# Retries of one entry

An entry whose deliveries are all answered with a retryable verdict, recorded before its
lease is over, is delivered as often as its ceiling allows and then fails.  Every delivery
but the last one puts the next one off, as a schedule says.
-/

namespace Pactix.Queue

open Foundation

variable {Id Key Time Body Worker : Type}

/-! ## What is noted about an entry -/

/-- A delivery, with the verdict about it, and the recording of a verdict by a worker. -/
inductive Event (Worker Time : Type) where
  | delivered (time : Time) (verdict : Verdict)
  | recorded (worker : Worker) (time : Time)
  deriving DecidableEq, Repr

def Event.delivery? : Event Worker Time → Option (Time × Verdict)
  | .delivered time verdict => some (time, verdict)
  | .recorded _ _ => none

def Event.mark? : Event Worker Time → Option (Worker × Time)
  | .delivered _ _ => none
  | .recorded worker time => some (worker, time)

/-- The deliveries, in order. -/
def deliveries (events : List (Event Worker Time)) : List (Time × Verdict) :=
  events.filterMap Event.delivery?

/-- By whom and when verdicts were recorded, in order. -/
def marks (events : List (Event Worker Time)) : List (Worker × Time) :=
  events.filterMap Event.mark?

@[simp] theorem deliveries_nil : deliveries ([] : List (Event Worker Time)) = [] := rfl

@[simp] theorem marks_nil : marks ([] : List (Event Worker Time)) = [] := rfl

@[simp] theorem deliveries_delivered (events : List (Event Worker Time)) (time : Time)
    (verdict : Verdict) :
    deliveries (events ++ [.delivered time verdict]) = deliveries events ++ [(time, verdict)] := by
  simp [deliveries, Event.delivery?]

@[simp] theorem marks_delivered (events : List (Event Worker Time)) (time : Time)
    (verdict : Verdict) : marks (events ++ [.delivered time verdict]) = marks events := by
  simp [marks, Event.mark?]

@[simp] theorem deliveries_recorded (events : List (Event Worker Time)) (worker : Worker)
    (time : Time) : deliveries (events ++ [.recorded worker time]) = deliveries events := by
  simp [deliveries, Event.delivery?]

@[simp] theorem marks_recorded (events : List (Event Worker Time)) (worker : Worker)
    (time : Time) :
    marks (events ++ [.recorded worker time]) = marks events ++ [(worker, time)] := by
  simp [marks, Event.mark?]

/-- The verdict asks for another attempt. -/
def Verdict.isRetryable : Verdict → Bool
  | .done => false
  | .retryable _ => true
  | .terminal _ => false

theorem Verdict.isRetryable_eq_true {verdict : Verdict} :
    verdict.isRetryable = true ↔ ∃ message, verdict = .retryable message := by
  cases verdict <;> simp [isRetryable]

/-- What an action adds, in the queue of one entry. -/
def Action.events : Action Worker Id Key Time Body → List (Event Worker Time)
  | .append _ => []
  | .start _ => []
  | .read _ _ => []
  | .claim _ _ _ _ _ _ _ => []
  | .consult _ _ => []
  | .decide _ time _ verdict => [.delivered time verdict]
  | .record worker time _ => [.recorded worker time]

/-! ## The discipline and the invariant -/

section Retried

variable [LinearOrder Time] (schedule : Worker → Int → Time → Time)

/-- Deliveries are answered retryable and recorded before the lease is over, with the due
time of the schedule. -/
structure Attended (state : State Worker Id Key Time Body)
    (action : Action Worker Id Key Time Body) : Prop where
  clocked : Clocked state action
  /-- No verdict is kept waiting beyond the lease. -/
  waits : ∀ time, action.time = some time → ∀ worker entry verdict,
    (state.session worker).decided = some (entry, verdict) →
      ∃ lease, entry.lease = some lease ∧ time ≤ lease
  /-- No verdict is given up. -/
  start : ∀ worker, action = .start worker → (state.session worker).decided = none
  claim : ∀ worker time now lease fifo chosen batch,
    action = .claim worker time now lease fifo chosen batch → (state.session worker).held = []
  decide : ∀ worker time entry verdict, action = .decide worker time entry verdict →
    (state.session worker).decided = none ∧ (∃ message, verdict = .retryable message) ∧
      ∃ lease, entry.lease = some lease ∧ time ≤ lease
  record : ∀ worker time due, action = .record worker time due → ∀ entry verdict,
    (state.session worker).decided = some (entry, verdict) →
      due = schedule worker entry.attempts time

theorem Attended.timely {state : State Worker Id Key Time Body}
    {action : Action Worker Id Key Time Body} (attended : Attended schedule state action) :
    Timely state action := by
  rintro worker time due rfl entry verdict decided
  exact attended.waits time rfl worker entry verdict decided

/-- An entry that keeps to the schedule. -/
structure Entry.OnSchedule (events : List (Event Worker Time)) (clock : Time)
    (entry : Entry Id Key Time Body) : Prop where
  attempts : entry.attempts = (marks events).length
  /-- It is open until the last attempt that it has, which fails it. -/
  stage : (entry.phase.terminal = false ∧
      ((marks events).length : Int) < max 1 entry.card.ceiling) ∨
    (entry.phase = .failed ∧ ((marks events).length : Int) = max 1 entry.card.ceiling ∧
      ∃ time message, (deliveries events).getLast? = some (time, .retryable message) ∧
        entry.error = some message)
  due : entry.phase.terminal = false → ∀ mark, (marks events).getLast? = some mark →
    entry.due = schedule mark.1 (entry.attempts - 1) mark.2
  ready : entry.phase = .processing → entry.due ≤ clock

/-- What holds in the queue of one entry after the events. -/
structure Retried (events : List (Event Worker Time)) (state : State Worker Id Key Time Body) :
    Prop where
  unheard : state.entries = [] → events = []
  entries : ∀ entry ∈ state.entries, entry.OnSchedule schedule events state.clock
  /-- No delivery comes before the time for which the one before it was put off. -/
  spaced : ∀ (count : Nat) mark next, (marks events)[count]? = some mark →
    (deliveries events)[count + 1]? = some next → schedule mark.1 count mark.2 ≤ next.1
  settled : (∀ worker, (state.session worker).decided = none) →
    (deliveries events).length = (marks events).length
  waiting : ∀ worker entry verdict, (state.session worker).decided = some (entry, verdict) →
    (deliveries events).length = (marks events).length + 1 ∧
      (∃ time message, (deliveries events).getLast? = some (time, verdict) ∧
        verdict = .retryable message) ∧
      ∃ lease, entry.lease = some lease ∧ state.clock ≤ lease

/-- All entries have the id. -/
def Lone (id : Id) (state : State Worker Id Key Time Body) : Prop :=
  ∀ entry ∈ state.entries, entry.card.id = id

omit [LinearOrder Time] in
theorem lone_only [DecidableEq Id] (id : Id) (state : State Worker Id Key Time Body) :
    Lone id (state.only id) := by
  intro entry membership
  exact of_decide_eq_true (List.mem_filter.mp membership).2

end Retried

section Step

variable [LinearOrder Time] {schedule : Worker → Int → Time → Time}
variable {events : List (Event Worker Time)} {clock later : Time} {id : Id}
variable {entry : Entry Id Key Time Body}

/-! ### The entry -/

namespace Entry.OnSchedule

theorem mono (onSchedule : entry.OnSchedule schedule events clock) (forward : clock ≤ later) :
    entry.OnSchedule schedule events later where
  attempts := onSchedule.attempts
  stage := onSchedule.stage
  due := onSchedule.due
  ready processing := (onSchedule.ready processing).trans forward

theorem fresh (fresh : entry.Fresh) : entry.OnSchedule schedule [] clock where
  attempts := fresh.attempts
  stage := .inl ⟨by rw [fresh.pending]; rfl, by simp⟩
  due := by simp
  ready processing := by simp [fresh.pending] at processing

/-- An open entry is not the one that has failed. -/
theorem limited (onSchedule : entry.OnSchedule schedule events clock)
    (isOpen : entry.phase.terminal = false) :
    ((marks events).length : Int) < max 1 entry.card.ceiling := by
  cases onSchedule.stage with
  | inl stage => exact stage.2
  | inr stage => simp [stage.1, Phase.terminal] at isOpen

/-- A failed entry has had its last attempt, and holds the error of it. -/
theorem failed (onSchedule : entry.OnSchedule schedule events clock)
    (isFailed : entry.phase = .failed) :
    ((marks events).length : Int) = max 1 entry.card.ceiling ∧
      ∃ time message, (deliveries events).getLast? = some (time, .retryable message) ∧
        entry.error = some message := by
  cases onSchedule.stage with
  | inl stage => simp [isFailed, Phase.terminal] at stage
  | inr stage => exact stage.2

/-- It fails at its last attempt, and at no other. -/
theorem failed_iff (onSchedule : entry.OnSchedule schedule events clock) :
    entry.phase = .failed ↔ ((marks events).length : Int) = max 1 entry.card.ceiling := by
  constructor
  · exact fun isFailed => (onSchedule.failed isFailed).1
  · intro last
    cases onSchedule.stage with
    | inl stage => exact absurd last stage.2.ne
    | inr stage => exact stage.1

/-- An expired entry is given back. -/
theorem release (onSchedule : entry.OnSchedule schedule events clock) (now : Time)
    (lent : entry.phase = .processing) :
    (entry.release now).OnSchedule schedule events clock := by
  have isOpen : entry.phase.terminal = false := by rw [lent]; rfl
  constructor
  case attempts => exact onSchedule.attempts
  case stage => exact .inl ⟨rfl, onSchedule.limited isOpen⟩
  case due => exact fun _ => onSchedule.due isOpen
  case ready =>
    intro processing
    simp [Entry.release] at processing

/-- A pending entry that is due is lent. -/
theorem take (onSchedule : entry.OnSchedule schedule events clock) (lease now : Time)
    (pending : entry.phase = .pending) (due : entry.due ≤ clock) :
    (entry.take lease now).OnSchedule schedule events clock := by
  have isOpen : entry.phase.terminal = false := by rw [pending]; rfl
  constructor
  case attempts => exact onSchedule.attempts
  case stage => exact .inl ⟨rfl, onSchedule.limited isOpen⟩
  case due => exact fun _ => onSchedule.due isOpen
  case ready => exact fun _ => due

/-- A delivery changes nothing about an open entry. -/
theorem delivered (onSchedule : entry.OnSchedule schedule events clock)
    (isOpen : entry.phase.terminal = false) (time : Time) (verdict : Verdict) :
    entry.OnSchedule schedule (events ++ [.delivered time verdict]) clock := by
  constructor
  case attempts => simpa using onSchedule.attempts
  case stage => exact .inl ⟨isOpen, by simpa using onSchedule.limited isOpen⟩
  case due => simpa using onSchedule.due
  case ready => exact onSchedule.ready

/-- A retryable verdict counts the attempt; the last one fails the entry. -/
theorem settle (onSchedule : entry.OnSchedule schedule events clock)
    (isOpen : entry.phase.terminal = false) {message : String} {delivered : Time}
    (last : (deliveries events).getLast? = some (delivered, .retryable message))
    (worker : Worker) (time : Time) :
    (entry.settle (.retryable message) entry.attempts entry.card.ceiling
      (schedule worker entry.attempts time) time).OnSchedule schedule
        (events ++ [.recorded worker time]) time := by
  have counted := onSchedule.attempts
  have limited := onSchedule.limited isOpen
  unfold Entry.settle
  by_cases final : entry.attempts + 1 ≥ entry.card.ceiling
  · simp only [final, if_true]
    constructor
    case attempts => simp [Entry.fail, counted]
    case stage =>
      apply Or.inr
      refine ⟨rfl, ?_, delivered, message, by simpa using last, rfl⟩
      simp only [marks_recorded, List.length_append, List.length_singleton, Entry.fail]
      omega
    case due => simp [Entry.fail, Phase.terminal]
    case ready => simp [Entry.fail]
  · simp only [final, if_false]
    constructor
    case attempts => simp [Entry.retry, counted]
    case stage =>
      apply Or.inl
      refine ⟨rfl, ?_⟩
      simp only [marks_recorded, List.length_append, List.length_singleton, Entry.retry]
      omega
    case due => simp [Entry.retry]
    case ready => simp [Entry.retry]

end Entry.OnSchedule

/-! ### The queue -/

variable {before after : State Worker Id Key Time Body}
variable {action : Action Worker Id Key Time Body}

/-- New entries, before anything happens. -/
theorem Retried.idle (clock : Time) {entries : List (Entry Id Key Time Body)}
    (fresh : ∀ entry ∈ entries, entry.Fresh) :
    Retried schedule [] ({ State.initial clock with entries } : State Worker Id Key Time Body) where
  unheard _ := rfl
  entries entry membership := .fresh (fresh entry membership)
  spaced := by simp
  settled _ := rfl
  waiting := by simp [State.initial]

/-- A verdict that waits is about the stored entry, which is open. -/
theorem Retried.stored (retried : Retried schedule events before) (orderly : Orderly before)
    {worker : Worker} {verdict : Verdict}
    (decided : (before.session worker).decided = some (entry, verdict)) :
    entry ∈ before.entries ∧ entry.phase = .processing := by
  obtain ⟨_, _, lease, leased, running⟩ := retried.waiting worker entry verdict decided
  have head := ((orderly.sound.sessions worker).decided_head entry verdict decided).1
  have held := List.mem_of_head? head
  exact ⟨orderly.stored held leased running,
    ((orderly.sound.sessions worker).held_lent entry held).1⟩

omit [LinearOrder Time] in
/-- Entries of one id are one entry. -/
theorem Lone.unique (lone : Lone id before) (sound : Integrity before)
    {left right : Entry Id Key Time Body} (leftMem : left ∈ before.entries)
    (rightMem : right ∈ before.entries) : left = right :=
  sound.entry_unique leftMem rightMem ((lone left leftMem).trans (lone right rightMem).symm)

omit [LinearOrder Time] in
/-- What is held has the id as well. -/
theorem Lone.held (lone : Lone id before) (sound : Integrity before) {worker : Worker}
    (held : entry ∈ (before.session worker).held) : entry.card.id = id := by
  have known := (sound.sessions worker).held_known entry held
  simp only [State.cards, List.mem_map] at known
  obtain ⟨stored, storedMem, sameCard⟩ := known
  rw [← sameCard]
  exact lone stored storedMem

/-- Two workers do not hold the entry under running leases. -/
theorem Lone.exclusive (lone : Lone id before) (orderly : Orderly before) {left right : Worker}
    {leftEntry rightEntry : Entry Id Key Time Body} {leftLease rightLease : Time}
    (leftHeld : leftEntry ∈ (before.session left).held)
    (rightHeld : rightEntry ∈ (before.session right).held)
    (leftLeased : leftEntry.lease = some leftLease) (leftRunning : before.clock ≤ leftLease)
    (rightLeased : rightEntry.lease = some rightLease)
    (rightRunning : before.clock ≤ rightLease) : left = right :=
  orderly.exclusive leftHeld rightHeld
    ((lone.held orderly.sound leftHeld).trans (lone.held orderly.sound rightHeld).symm)
    leftLeased rightLeased leftRunning rightRunning

/-- Deliveries are recorded one by one. -/
theorem Retried.balanced (retried : Retried schedule events before) :
    (deliveries events).length = (marks events).length ∨
      (deliveries events).length = (marks events).length + 1 := by
  by_cases idle : ∀ worker, (before.session worker).decided = none
  · exact .inl (retried.settled idle)
  · obtain ⟨worker, waits⟩ := not_forall.mp idle
    obtain ⟨decision, decided⟩ := Option.ne_none_iff_exists'.mp waits
    exact .inr (retried.waiting worker _ _ decided).1

/-- While deliveries and recordings do not balance, the entry is open. -/
theorem Retried.open_of_waiting (retried : Retried schedule events before)
    (lone : Lone id before) (orderly : Orderly before) (stored : entry ∈ before.entries)
    (waits : (deliveries events).length ≠ (marks events).length) :
    entry.phase.terminal = false := by
  have busy : ¬∀ worker, (before.session worker).decided = none := fun idle =>
    waits (retried.settled idle)
  obtain ⟨worker, busy⟩ := not_forall.mp busy
  obtain ⟨⟨decidedEntry, verdict⟩, decided⟩ := Option.ne_none_iff_exists'.mp busy
  obtain ⟨decidedStored, lent⟩ := retried.stored orderly decided
  rw [lone.unique orderly.sound stored decidedStored, lent]
  rfl

/-- Every delivery of a failed entry has been recorded. -/
theorem Retried.finished (retried : Retried schedule events before)
    (lone : Lone id before) (orderly : Orderly before) (stored : entry ∈ before.entries)
    (isFailed : entry.phase = .failed) :
    (deliveries events).length = (marks events).length := by
  by_contra waits
  have isOpen := retried.open_of_waiting lone orderly stored waits
  simp [isFailed, Phase.terminal] at isOpen

/-- The ceiling limits the deliveries. -/
theorem Retried.limited (retried : Retried schedule events before) (lone : Lone id before)
    (orderly : Orderly before) (stored : entry ∈ before.entries) :
    ((deliveries events).length : Int) ≤ max 1 entry.card.ceiling := by
  have onSchedule := retried.entries entry stored
  by_cases same : (deliveries events).length = (marks events).length
  · cases onSchedule.stage with
    | inl stage => omega
    | inr stage => omega
  · have limited := onSchedule.limited (retried.open_of_waiting lone orderly stored same)
    have balanced := retried.balanced
    omega

/-- With tenure, one verdict waits at a time. -/
theorem Retried.alone (retried : Retried schedule events before) (lone : Lone id before)
    (orderly : Orderly before) {left right : Worker} {leftDecision rightDecision}
    (leftDecided : (before.session left).decided = some leftDecision)
    (rightDecided : (before.session right).decided = some rightDecision) : left = right := by
  have running : ∀ {worker : Worker} {decision : Entry Id Key Time Body × Verdict},
      (before.session worker).decided = some decision →
        decision.1 ∈ (before.session worker).held ∧
          ∃ lease, decision.1.lease = some lease ∧ before.clock ≤ lease := by
    intro worker decision decided
    have head := ((orderly.sound.sessions worker).decided_head _ _ decided).1
    exact ⟨List.mem_of_head? head, (retried.waiting worker _ _ decided).2.2⟩
  obtain ⟨leftHeld, _, leftLeased, leftRunning⟩ := running leftDecided
  obtain ⟨rightHeld, _, rightLeased, rightRunning⟩ := running rightDecided
  exact lone.exclusive orderly leftHeld rightHeld leftLeased leftRunning rightLeased rightRunning

/-- A step that nothing is noted about. -/
theorem Retried.quiet (retried : Retried schedule events before)
    (unheard : after.entries = [] → before.entries = [])
    (entries : ∀ entry ∈ after.entries, entry.OnSchedule schedule events after.clock)
    (decided : ∀ worker, (after.session worker).decided = (before.session worker).decided)
    (waits : ∀ worker entry verdict, (before.session worker).decided = some (entry, verdict) →
      ∃ lease, entry.lease = some lease ∧ after.clock ≤ lease) :
    Retried schedule events after where
  unheard none := retried.unheard (unheard none)
  entries := entries
  spaced := retried.spaced
  settled idle := retried.settled fun worker => (decided worker).symm.trans (idle worker)
  waiting worker entry verdict settled := by
    rw [decided worker] at settled
    have waiting := retried.waiting worker entry verdict settled
    exact ⟨waiting.1, waiting.2.1, waits worker entry verdict settled⟩

variable [DecidableEq Worker] [DecidableEq Id]

omit [DecidableEq Worker] [DecidableEq Id] in
/-- The swept and lent entries of a claim keep to the schedule. -/
theorem onSchedule_claim {entries batch : List (Entry Id Key Time Body)} {chosen : Id → Bool}
    {fifo : Bool} {now lease : Time} (lends : Lends fifo now lease entries chosen batch)
    (current : now ≤ clock)
    (onSchedule : ∀ entry ∈ entries, entry.OnSchedule schedule events clock) :
    ∀ entry ∈ lend chosen lease now (sweep now entries),
      entry.OnSchedule schedule events clock := by
  have swept : ∀ entry ∈ sweep now entries, entry.OnSchedule schedule events clock := by
    intro entry membership
    obtain ⟨stored, storedMem, ⟨expired, rfl⟩ | ⟨_, rfl⟩⟩ := mem_updateWhere.mp membership
    · exact (onSchedule stored storedMem).release now (Entry.expired_eq_true.mp expired).1
    · exact onSchedule _ storedMem
  intro entry membership
  obtain ⟨stored, storedMem, ⟨picked, rfl⟩ | ⟨_, rfl⟩⟩ := mem_updateWhere.mp membership
  · have ready := lends.ready stored storedMem picked
    exact (swept stored storedMem).take lease now ready.pending (ready.due.trans current)
  · exact swept _ storedMem

omit [DecidableEq Id] in
/-- A delivery comes when the entry is due again. -/
theorem Retried.decide (retried : Retried schedule events before) (lone : Lone id before)
    (orderly : Orderly before) {worker : Worker} {time : Time} {verdict : Verdict}
    (forward : before.clock ≤ time)
    (waits : ∀ worker entry verdict, (before.session worker).decided = some (entry, verdict) →
      ∃ lease, entry.lease = some lease ∧ time ≤ lease)
    (undecided : (before.session worker).decided = none)
    (head : (before.session worker).held.head? = some entry)
    {message : String} (retryable : verdict = .retryable message)
    {lease : Time} (leased : entry.lease = some lease) (running : time ≤ lease) :
    Retried schedule (events ++ [.delivered time verdict])
      { before with
        clock := time
        session := Function.update before.session worker
          { before.session worker with decided := some (entry, verdict) }
        verdicts := (entry, verdict) :: before.verdicts } := by
  have held := List.mem_of_head? head
  have stored := orderly.stored held leased (forward.trans running)
  have lent := ((orderly.sound.sessions worker).held_lent entry held).1
  have isOpen : entry.phase.terminal = false := by rw [lent]; rfl
  have onSchedule := retried.entries entry stored
  have idle : ∀ other, (before.session other).decided = none := by
    intro other
    cases decided : (before.session other).decided with
    | none => rfl
    | some decision =>
        obtain ⟨limit, limited, inTime⟩ := waits other decision.1 decision.2 decided
        have otherHead := ((orderly.sound.sessions other).decided_head _ _ decided).1
        have same := lone.exclusive orderly (List.mem_of_head? otherHead) held limited
          (forward.trans inTime) leased (forward.trans running)
        rw [← same, decided] at undecided
        cases undecided
  have balanced := retried.settled idle
  constructor
  case unheard =>
    intro none
    rw [show before.entries = [] from none] at stored
    cases stored
  case entries =>
    intro other otherMem
    obtain rfl := lone.unique orderly.sound otherMem stored
    exact (onSchedule.delivered isOpen time verdict).mono forward
  case spaced =>
    intro count mark next marked delivered
    rw [marks_delivered] at marked
    rw [deliveries_delivered] at delivered
    obtain ⟨bound, _⟩ := List.getElem?_eq_some_iff.mp marked
    by_cases last : count + 1 < (deliveries events).length
    · rw [List.getElem?_append_left last] at delivered
      exact retried.spaced count mark next marked delivered
    · have position : count + 1 = (deliveries events).length := by omega
      rw [position, List.getElem?_concat_length, Option.some.injEq] at delivered
      have latest : (marks events).getLast? = some mark := by
        rw [List.getLast?_eq_getElem?, ← balanced, ← position]
        exact marked
      have due := onSchedule.due isOpen mark latest
      have counted : entry.attempts - 1 = count := by
        have := onSchedule.attempts
        omega
      rw [← delivered, ← counted, ← due]
      exact (onSchedule.ready lent).trans forward
  case settled =>
    intro none
    have own := none worker
    simp at own
  case waiting =>
    intro other decidedEntry decidedVerdict decided
    by_cases same : other = worker
    · subst same
      simp only [Function.update_self, Option.some.injEq, Prod.mk.injEq] at decided
      obtain ⟨rfl, rfl⟩ := decided
      refine ⟨by simp [balanced], ⟨time, message, by simp, retryable⟩, lease, leased, running⟩
    · simp [same, idle other] at decided

/-- A recorded verdict counts the attempt and puts the next delivery off. -/
theorem Retried.record (retried : Retried schedule events before) (lone : Lone id before)
    (orderly : Orderly before) {worker : Worker} {time : Time} {verdict : Verdict}
    {rest : List (Entry Id Key Time Body)}
    (decided : (before.session worker).decided = some (entry, verdict)) :
    Retried schedule (events ++ [.recorded worker time])
      { before with
        entries := updateWhere (fun stored => stored.card.id = entry.card.id)
          (Entry.settle verdict entry.attempts entry.card.ceiling
            (schedule worker entry.attempts time) time) before.entries
        clock := time
        session := Function.update before.session worker
          { before.session worker with held := rest, decided := none } } := by
  obtain ⟨stored, lent⟩ := retried.stored orderly decided
  have isOpen : entry.phase.terminal = false := by rw [lent]; rfl
  obtain ⟨pending, ⟨delivered, message, last, rfl⟩, _⟩ :=
    retried.waiting worker entry verdict decided
  have onSchedule := (retried.entries entry stored).settle isOpen last worker time
  have idle : ∀ other, (Function.update before.session worker
      { before.session worker with held := rest, decided := none } other).decided = none := by
    intro other
    by_cases same : other = worker
    · subst same
      simp
    · rw [Function.update_of_ne same]
      cases also : (before.session other).decided with
      | none => rfl
      | some decision => exact absurd (retried.alone lone orderly also decided) same
  constructor
  case unheard =>
    intro none
    have cards := congrArg (List.map Entry.card) none
    rw [cards_record, List.map_nil] at cards
    rw [List.map_eq_nil_iff.mp cards] at stored
    cases stored
  case entries =>
    intro settled membership
    obtain ⟨other, otherMem, ⟨_, rfl⟩ | ⟨different, _⟩⟩ := mem_updateWhere.mp membership
    · obtain rfl := lone.unique orderly.sound otherMem stored
      exact onSchedule
    · have same := lone.unique orderly.sound otherMem stored
      simp [same] at different
  case spaced =>
    intro count mark next marked nextDelivered
    rw [marks_recorded] at marked
    rw [deliveries_recorded] at nextDelivered
    obtain ⟨bound, _⟩ := List.getElem?_eq_some_iff.mp nextDelivered
    rw [List.getElem?_append_left (by omega)] at marked
    exact retried.spaced count mark next marked nextDelivered
  case settled =>
    intro _
    simp [pending]
  case waiting =>
    intro other decidedEntry decidedVerdict settled
    rw [idle other] at settled
    cases settled

/-- What is promised of an entry is kept by every attended step. -/
theorem Retried.step (retried : Retried schedule events before) (lone : Lone id before)
    (loneAfter : Lone id after) (orderly : Orderly before)
    (attended : Attended schedule before action) (step : Step before action after) :
    Retried schedule (events ++ action.events) after := by
  have carried : ∀ {later : Time}, before.clock ≤ later → ∀ entry ∈ before.entries,
      entry.OnSchedule schedule events later := fun forward entry membership =>
    (retried.entries entry membership).mono forward
  have waiting : ∀ worker entry verdict,
      (before.session worker).decided = some (entry, verdict) →
        ∃ lease, entry.lease = some lease ∧ before.clock ≤ lease :=
    fun worker entry verdict decided => (retried.waiting worker entry verdict decided).2.2
  cases step with
  | append entry fresh unknown =>
      have empty : before.entries = [] := by
        apply List.eq_nil_iff_forall_not_mem.mpr
        intro stored storedMem
        apply unknown
        rw [loneAfter entry (by simp), ← lone stored storedMem]
        exact List.mem_map_of_mem storedMem
      obtain rfl := retried.unheard empty
      refine retried.quiet (by simp) ?_ (fun _ => rfl) waiting
      intro stored storedMem
      simp only [empty, List.nil_append, List.mem_singleton] at storedMem
      subst storedMem
      exact .fresh fresh
  | start worker =>
      rw [Action.events, List.append_nil]
      refine retried.quiet (fun none => none) retried.entries ?_ waiting
      intro other
      by_cases same : other = worker
      · subst same
        simp [attended.start other rfl]
      · simp [same]
  | read worker time =>
      rw [Action.events, List.append_nil]
      refine retried.quiet (fun none => none) (carried (attended.clocked time rfl)) ?_
        (attended.waits time rfl)
      intro other
      by_cases same : other = worker <;> simp [Function.update, same]
  | consult worker time =>
      rw [Action.events, List.append_nil]
      exact retried.quiet (fun none => none) (carried (attended.clocked time rfl)) (fun _ => rfl)
        (attended.waits time rfl)
  | claim worker time now lease fifo chosen batch armed lends =>
      rw [Action.events, List.append_nil]
      have forward := attended.clocked time rfl
      have current := (orderly.punctual.reading_le worker now armed).trans forward
      refine retried.quiet ?_ (onSchedule_claim lends current (carried forward)) ?_
        (attended.waits time rfl)
      · intro none
        have cards := congrArg (List.map Entry.card) none
        rw [cards_lend, cards_sweep] at cards
        exact List.map_eq_nil_iff.mp cards
      · intro other
        by_cases same : other = worker
        · subst same
          have idle := attended.claim other time now lease fifo chosen batch rfl
          cases decided : (before.session other).decided with
          | none => simp [claimSessions]
          | some decision =>
              have head := ((orderly.sound.sessions other).decided_head _ _ decided).1
              rw [idle] at head
              cases head
        · simp [claimSessions, same]
  | decide worker time entry verdict head =>
      obtain ⟨undecided, ⟨message, retryable⟩, lease, leased, running⟩ :=
        attended.decide worker time entry verdict rfl
      exact retried.decide lone orderly (attended.clocked time rfl) (attended.waits time rfl)
        undecided head retryable leased running
  | record worker time due entry rest verdict held decided =>
      obtain rfl := attended.record worker time due rfl entry verdict decided
      exact retried.record lone orderly decided

end Step

end Pactix.Queue
