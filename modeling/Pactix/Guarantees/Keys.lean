import Pactix.Guarantees.Accounting
import Pactix.Worker.Rowwise

/-!
# Ordering keys do not interfere

What happens to the rows of one ordering key, in sequential passes whose batches are
large enough, does not depend on any other row.
-/

namespace Pactix.Guarantees

open Foundation Worker

section Service

variable {Worker Row Status Ask Summary Arrival Receipt Body : Type} {Reply : Ask → Type}

/-- Rows that are appended, and a pass after that. -/
structure Round (Worker Row Ask : Type) (Reply : Ask → Type) where
  added : List Row
  worker : Worker
  contexts : Nat → Context Row Ask Reply

variable (service : Service Worker Row Ask Summary Arrival Receipt Body Reply)

/-- The row belongs to the event type and ordering key. -/
def OfKey (key : String × String) (row : Row) : Prop :=
  (service.entry row).card.key = some key

/-- The tables have the same rows of the key, in all columns. -/
def Agree (key : String × String) (left right : List Row) : Prop :=
  ∀ row, OfKey service key row → (row ∈ left ↔ row ∈ right)

namespace Round

variable (round : Round Worker Row Ask Reply) (table : List Row)

/-- The pass, which nobody interferes with. -/
def pass : PassTranscript Row Ask Reply Summary :=
  service.pass round.worker round.contexts alone (table ++ round.added)

/-- The time of the pass. -/
def time : Int := (round.contexts 0).time

end Round

/-- The table after so many rounds. -/
def roundsFrom (table : List Row) (rounds : Nat → Round Worker Row Ask Reply) :
    Nat → List Row
  | 0 => table
  | count + 1 => ((rounds count).pass service (roundsFrom table rounds count)).store

variable {service}
variable [DecidableEq Status] {columns : Columns Row Status} (tabular : Tabular service columns)

/-- A round whose callbacks return, that nobody interferes with, and whose batch is large
enough for every row that may be claimed. -/
structure Unhindered (round : Round Worker Row Ask Reply) (table : List Row) : Prop where
  distinct : ((table ++ round.added).map service.store.id).Nodup
  unlocked : ∀ id, (round.contexts 1).choices.locked id = false
  returns : ∀ position query, ∃ reply, (round.contexts position).reply query = .ok reply
  enough : (tabular.eligible round.worker round.time (table ++ round.added)).length ≤
    service.batchSize round.worker

/-- Two rounds that do the same as far as the key is concerned. -/
structure Alike (service : Service Worker Row Ask Summary Arrival Receipt Body Reply)
    (key : String × String) (left right : Round Worker Row Ask Reply)
    (leftTable rightTable : List Row) : Prop where
  added : Agree service key left.added right.added
  time : left.time = right.time
  /-- The workers lend rows for the same time and put them off by the same policy. -/
  lease : service.leaseDuration left.worker = service.leaseDuration right.worker
  policy : ∀ now, (service.store.retryStore left.worker now).retryPolicy =
    (service.store.retryStore right.worker now).retryPolicy
  /-- The callbacks answer a question about a row of the key in the same way. -/
  answers : ∀ call ∈ (left.pass service leftTable).performed,
    ∀ other ∈ (right.pass service rightTable).performed, ∀ query,
      OfKey service key (service.subject query) → call.request = .ask query →
        other.request = .ask query →
          (left.contexts call.position).reply query = (right.contexts other.position).reply query
  /-- The outcome of a row of the key is recorded at the same time. -/
  marks : ∀ row ∈ leftTable ++ left.added, row ∈ rightTable ++ right.added →
    OfKey service key row →
    ∀ call ∈ (left.pass service leftTable).performed,
    ∀ other ∈ (right.pass service rightTable).performed,
      call.request.recordsFor = some (service.store.id row) →
        other.request.recordsFor = some (service.store.id row) →
          (left.contexts call.position).time = (right.contexts other.position).time

variable {key : String × String} {left right : Round Worker Row Ask Reply}
variable {leftTable rightTable : List Row}

theorem Agree.symm (agree : Agree service key leftTable rightTable) :
    Agree service key rightTable leftTable :=
  fun row ofKey => (agree row ofKey).symm

theorem Agree.append {leftAdded rightAdded : List Row}
    (agree : Agree service key leftTable rightTable)
    (added : Agree service key leftAdded rightAdded) :
    Agree service key (leftTable ++ leftAdded) (rightTable ++ rightAdded) := by
  intro row ofKey
  rw [List.mem_append, List.mem_append, agree row ofKey, added row ofKey]

/-- A row of another key makes no difference. -/
theorem agree_cons {row : Row} (other : ¬OfKey service key row) (rows : List Row) :
    Agree service key rows (row :: rows) := by
  intro listed ofKey
  refine ⟨List.mem_cons_of_mem row, fun membership => ?_⟩
  cases membership with
  | head => exact absurd ofKey other
  | tail _ membership => exact membership

theorem Alike.symm (alike : Alike service key left right leftTable rightTable) :
    Alike service key right left rightTable leftTable where
  added := alike.added.symm
  time := alike.time.symm
  lease := alike.lease.symm
  policy now := (alike.policy now).symm
  answers call performed other otherPerformed query about asks asksToo :=
    (alike.answers other otherPerformed call performed query about asksToo asks).symm
  marks row rightMem leftMem ofKey call performed other otherPerformed records recordsToo :=
    (alike.marks row leftMem rightMem ofKey other otherPerformed call performed recordsToo
      records).symm

/-- Whether a row of the key is claimed depends on the rows of the key. -/
theorem claims_congr (time : Int) {leftWorker rightWorker : Worker}
    (sameQuery : service.query leftWorker = service.query rightWorker)
    (agree : Agree service key leftTable rightTable) {row : Row} (ofKey : OfKey service key row) :
    tabular.claims leftWorker time leftTable row =
      tabular.claims rightWorker time rightTable row := by
  have card : ∀ row, (tabular.view.entry (tabular.released time row)).card =
      (service.entry row).card := fun row => by
    rw [Tabular.released, tabular.view.card_released, tabular.entry_eq]
  have carried : ∀ {one other : List Row}, Agree service key one other → ∀ row,
      (tabular.view.entry row).card.key = some key → row ∈ one.map (tabular.released time) →
        row ∈ other.map (tabular.released time) := by
    intro one other agree _ keyed membership
    obtain ⟨row, rowMem, rfl⟩ := List.mem_map.mp membership
    rw [card] at keyed
    exact List.mem_map_of_mem ((agree row keyed).mp rowMem)
  have swept : ∀ row, (tabular.view.entry row).card.key = some key →
      (row ∈ leftTable.map (tabular.released time) ↔
        row ∈ rightTable.map (tabular.released time)) :=
    fun row keyed => ⟨carried agree row keyed, carried agree.symm row keyed⟩
  rw [Tabular.claims, Tabular.claims, sameQuery]
  apply tabular.view.claimable_congr _ _ swept
  rw [card]
  exact ofKey

theorem ofKey_record {worker : Worker} {time : Int} {row : Row}
    (ofKey : OfKey service key row) :
    OfKey service key (tabular.record worker time (tabular.released time row)) := by
  rw [OfKey, tabular.card_record]
  exact ofKey

/-- A round deals with every row for itself. -/
theorem Unhindered.rowwise {round : Round Worker Row Ask Reply} {table : List Row}
    (unhindered : Unhindered tabular round table) {answers : (query : Ask) → Reply query}
    (describes : Describes service round.worker round.contexts (table ++ round.added) answers) :
    ∃ final : Row → Row,
      (round.pass service table).store = (table ++ round.added).map final ∧
      ∀ row ∈ table ++ round.added, Dealt tabular round.worker
        (answeringAs round.contexts answers) answers (table ++ round.added) row (final row) := by
  have rowwise := pass_rowwise (answeringAs round.contexts answers)
    tabular (fun _ => rfl) unhindered.distinct unhindered.unlocked unhindered.enough
  rw [describes.same] at rowwise
  exact rowwise

section Pair

variable {leftAnswers rightAnswers : (query : Ask) → Reply query}
variable (sameRoutine : service.routine left.worker = service.routine right.worker)
variable (sameQuery : service.query left.worker = service.query right.worker)
variable (leftFree : Unhindered tabular left leftTable)
variable (rightFree : Unhindered tabular right rightTable)
variable (leftDescribes :
  Describes service left.worker left.contexts (leftTable ++ left.added) leftAnswers)
variable (rightDescribes :
  Describes service right.worker right.contexts (rightTable ++ right.added) rightAnswers)
variable (alike : Alike service key left right leftTable rightTable)

include sameRoutine leftFree rightFree leftDescribes rightDescribes alike

/-- The callbacks come to the same verdict about a record of the key. -/
theorem concluded_of_alike {record : Row} (ofKey : OfKey service key record)
    (leftClaimed : record ∈ service.batch left.worker left.contexts alone
      (leftTable ++ left.added))
    (rightClaimed : record ∈ service.batch right.worker right.contexts alone
      (rightTable ++ right.added)) :
    (service.routine left.worker).concluded leftAnswers record =
      (service.routine right.worker).concluded rightAnswers record := by
  unfold Routine.concluded
  rw [sameRoutine]
  apply congrArg Prod.fst
  apply Inquiry.concluded_congr
  intro query asked askedToo
  have about := Inquiry.consulted_about (service.inquire_sound right.worker record) query askedToo
  obtain ⟨call, performed, asks⟩ := mem_pass_consulted left.worker
    (answeringAs left.contexts leftAnswers) tabular (fun _ => rfl) leftFree.distinct
    leftClaimed (sameRoutine ▸ asked)
  obtain ⟨other, otherPerformed, asksToo⟩ := mem_pass_consulted right.worker
    (answeringAs right.contexts rightAnswers) tabular (fun _ => rfl) rightFree.distinct
    rightClaimed askedToo
  rw [leftDescribes.same] at performed
  rw [rightDescribes.same] at otherPerformed
  have same := alike.answers call performed other otherPerformed query (about.1 ▸ ofKey) asks
    asksToo
  rw [leftDescribes.answered call performed query asks,
    rightDescribes.answered other otherPerformed query asksToo] at same
  exact Except.ok.inj same

include sameQuery

/-- Two rounds that are alike deal with a row of the key in the same way. -/
theorem final_of_alike (agree : Agree service key leftTable rightTable)
    {row leftFinal rightFinal : Row} (ofKey : OfKey service key row)
    (leftMem : row ∈ leftTable ++ left.added) (rightMem : row ∈ rightTable ++ right.added)
    (onLeft : Dealt tabular left.worker (answeringAs left.contexts leftAnswers) leftAnswers
      (leftTable ++ left.added) row leftFinal)
    (onRight : Dealt tabular right.worker (answeringAs right.contexts rightAnswers) rightAnswers
      (rightTable ++ right.added) row rightFinal) :
    rightFinal = leftFinal := by
  have time : (answeringAs right.contexts rightAnswers 0).time =
      (answeringAs left.contexts leftAnswers 0).time := alike.time.symm
  have claims := claims_congr tabular (answeringAs left.contexts leftAnswers 0).time
    sameQuery (agree.append alike.added) ofKey
  cases claimed : tabular.claims left.worker (answeringAs left.contexts leftAnswers 0).time
      (leftTable ++ left.added) row with
  | false =>
      have unclaimed := claims.symm.trans claimed
      rw [onLeft.left claimed, onRight.left (time.symm ▸ unclaimed), time]
  | true =>
      have claimedToo := claims.symm.trans claimed
      obtain ⟨leftClaimed, call, performed, records, leftMarked⟩ := onLeft.marked claimed
      obtain ⟨rightClaimed, other, otherPerformed, recordsToo, rightMarked⟩ :=
        onRight.marked (time.symm ▸ claimedToo)
      rw [leftDescribes.same] at performed
      rw [rightDescribes.same] at otherPerformed
      have marks : (left.contexts call.position).time = (right.contexts other.position).time :=
        alike.marks row leftMem rightMem ofKey call performed other otherPerformed records
          recordsToo
      -- The right worker takes and marks the row as the left one does.
      have record : tabular.record right.worker = tabular.record left.worker := by
        funext time
        rw [Tabular.record, Tabular.record, alike.lease]
      have taken : tabular.taken right.worker = tabular.taken left.worker := by
        funext time
        rw [Tabular.taken, Tabular.taken, alike.lease]
      rw [time, record] at rightClaimed
      rw [time, record, taken, ← tabular.mark_congr alike.policy] at rightMarked
      have verdicts := concluded_of_alike tabular sameRoutine leftFree rightFree leftDescribes
        rightDescribes alike (ofKey_record tabular ofKey) leftClaimed rightClaimed
      rw [leftMarked, rightMarked, ← verdicts]
      exact congrArg (fun time => tabular.mark left.worker time _ _ _) marks.symm

/-- A row of the key that one round leaves is left by the other one too. -/
theorem mem_pass_of_alike (agree : Agree service key leftTable rightTable) {row : Row}
    (ofKey : OfKey service key row) (stored : row ∈ (left.pass service leftTable).store) :
    row ∈ (right.pass service rightTable).store := by
  obtain ⟨leftFinal, leftStore, onLeft⟩ := leftFree.rowwise tabular leftDescribes
  obtain ⟨rightFinal, rightStore, onRight⟩ := rightFree.rowwise tabular rightDescribes
  rw [leftStore] at stored
  obtain ⟨source, leftMem, rfl⟩ := List.mem_map.mp stored
  have sourceOfKey : OfKey service key source := by
    rw [OfKey, ← (onLeft source leftMem).card]
    exact ofKey
  have rightMem := (agree.append alike.added source sourceOfKey).mp leftMem
  have same := final_of_alike tabular sameRoutine sameQuery leftFree rightFree leftDescribes
    rightDescribes alike agree sourceOfKey leftMem rightMem (onLeft source leftMem)
    (onRight source rightMem)
  rw [rightStore, ← same]
  exact List.mem_map_of_mem rightMem

end Pair

/-- Rounds that are alike keep the rows of the key alike. -/
theorem agree_rounds (once : ∀ worker row, ((service.routine worker).inquire row).Once [])
    (sameRoutine : ∀ one other, service.routine one = service.routine other)
    (sameQuery : ∀ one other, service.query one = service.query other)
    {leftRounds rightRounds : Nat → Round Worker Row Ask Reply}
    (initially : Agree service key leftTable rightTable) (count : Nat)
    (rounds : ∀ earlier < count,
      let leftTable := roundsFrom service leftTable leftRounds earlier
      let rightTable := roundsFrom service rightTable rightRounds earlier
      Unhindered tabular (leftRounds earlier) leftTable ∧
        Unhindered tabular (rightRounds earlier) rightTable ∧
        Alike service key (leftRounds earlier) (rightRounds earlier) leftTable rightTable) :
    Agree service key (roundsFrom service leftTable leftRounds count)
      (roundsFrom service rightTable rightRounds count) := by
  induction count with
  | zero => exact initially
  | succ count ih =>
      have before := ih fun earlier less => rounds earlier (less.trans count.lt_succ_self)
      obtain ⟨leftFree, rightFree, alike⟩ := rounds count count.lt_succ_self
      obtain ⟨leftAnswers, leftDescribes⟩ :=
        exists_answers (once _) leftFree.returns leftFree.distinct
      obtain ⟨rightAnswers, rightDescribes⟩ :=
        exists_answers (once _) rightFree.returns rightFree.distinct
      intro row ofKey
      exact ⟨mem_pass_of_alike tabular (sameRoutine _ _) (sameQuery _ _) leftFree rightFree
          leftDescribes rightDescribes alike before ofKey,
        mem_pass_of_alike tabular (sameRoutine _ _) (sameQuery _ _) rightFree leftFree
          rightDescribes leftDescribes alike.symm before.symm ofKey⟩

end Service

/-! ## Outbox and inbox -/

/-- In sequential passes, what happens to the rows of an ordering key does not depend on
the other rows, as long as every batch is large enough for the rows that may be claimed. -/
theorem keys_do_not_interfere {Worker J : Type} (deployment : Deployment Worker)
    (key : String × String) :
    (let service := Outbox.service (J := J) deployment
      ∀ leftTable rightTable leftRounds rightRounds, Agree service key leftTable rightTable →
        ∀ count, (∀ earlier < count,
          let leftTable := roundsFrom service leftTable leftRounds earlier
          let rightTable := roundsFrom service rightTable rightRounds earlier
          Unhindered (Outbox.tabular deployment) (leftRounds earlier) leftTable ∧
            Unhindered (Outbox.tabular deployment) (rightRounds earlier) rightTable ∧
            Alike service key (leftRounds earlier) (rightRounds earlier) leftTable rightTable) →
        Agree service key (roundsFrom service leftTable leftRounds count)
          (roundsFrom service rightTable rightRounds count)) ∧
    (let mode := fun (_ : Worker) => Inbox.Mode.fifoPerOrderingKey
      let service := Inbox.service (J := J) deployment mode
      ∀ leftTable rightTable leftRounds rightRounds, Agree service key leftTable rightTable →
        ∀ count, (∀ earlier < count,
          let leftTable := roundsFrom service leftTable leftRounds earlier
          let rightTable := roundsFrom service rightTable rightRounds earlier
          Unhindered (Inbox.tabular deployment mode) (leftRounds earlier) leftTable ∧
            Unhindered (Inbox.tabular deployment mode) (rightRounds earlier) rightTable ∧
            Alike service key (leftRounds earlier) (rightRounds earlier) leftTable rightTable) →
        Agree service key (roundsFrom service leftTable leftRounds count)
          (roundsFrom service rightTable rightRounds count)) := by
  constructor
  · intro service leftTable rightTable leftRounds rightRounds initially count
    exact agree_rounds (Outbox.tabular deployment) (outbox_once deployment)
      (fun _ _ => rfl) (fun _ _ => rfl) initially count
  · intro mode service leftTable rightTable leftRounds rightRounds initially count
    exact agree_rounds (Inbox.tabular deployment mode) (inbox_once deployment mode)
      (fun _ _ => rfl) (fun _ _ => rfl) initially count

/-- A publisher that is down for refunds, in passes at these seconds. -/
def outage (seconds : Int) (_ : Nat) : Context (Outbox.OutboxMessageRecord Unit)
    (Outbox.OutboxMessageRecord Unit) fun _ => Outbox.PublishOutcome where
  time := seconds * second
  choices := .plain
  reply record :=
    .ok (if record.eventType = "refund" then .terminal "down" else .published)

def outboxRow (id : UUID) (envelope : MessageEnvelope Unit) : Outbox.OutboxMessageRecord Unit :=
  Outbox.recordValues (.ofEnvelope envelope twoAttempts.retryPolicy id (.utc 0)) .postgresql

/-- Passes on the orders alone. -/
def ordersOnly (count : Nat) : Round Bool (Outbox.OutboxMessageRecord Unit)
    (Outbox.OutboxMessageRecord Unit) fun _ => Outbox.PublishOutcome where
  added :=
    match count with
    | 0 => [outboxRow 2 m2]
    | _ + 1 => []
  worker := false
  contexts := outage (10 * (count + 1))

/-- Passes that also meet refunds, of another worker. -/
def withRefunds (count : Nat) : Round Bool (Outbox.OutboxMessageRecord Unit)
    (Outbox.OutboxMessageRecord Unit) fun _ => Outbox.PublishOutcome where
  added :=
    match count with
    | 0 => [outboxRow 1 refund, outboxRow 2 m2]
    | _ + 1 => []
  worker := true
  contexts := outage (10 * (count + 1))

def handlingAt (seconds : Int) (_ : Nat) :
    Context (Inbox.InboxMessageRecord Unit) (Inbox.Query Unit) Inbox.Query.Reply where
  time := seconds * second
  choices := .plain
  reply := answering .processed

def inboxRow (id : UUID) (envelope : MessageEnvelope Unit) : Inbox.InboxMessageRecord Unit :=
  Inbox.recordValues (.ofEnvelope "shop" envelope twoAttempts.retryPolicy id (.utc 0))
    .postgresql

/-- One pass after the messages have been received. -/
def receivingBoth (added : List (Inbox.InboxMessageRecord Unit)) (_ : Nat) :
    Round Bool (Inbox.InboxMessageRecord Unit) (Inbox.Query Unit) Inbox.Query.Reply where
  added
  worker := false
  contexts := handlingAt 10

theorem keys_do_not_interfere_sample :
    Agree outbox ("order", "customer") (roundsFrom outbox [] ordersOnly 2)
      (roundsFrom outbox [] withRefunds 2) ∧
    Agree inbox ("order", "customer") (roundsFrom inbox [] (receivingBoth [inboxRow 2 m2]) 1)
      (roundsFrom inbox [] (receivingBoth [inboxRow 1 refund, inboxRow 2 m2]) 1) := by
  have claim := @keys_do_not_interfere Bool Unit deployment ("order", "customer")
  constructor
  · apply claim.1 [] [] ordersOnly withRefunds (fun _ _ => .rfl) 2
    intro earlier less
    have added : Agree outbox ("order", "customer") (ordersOnly earlier).added
        (withRefunds earlier).added := by
      cases earlier with
      | zero =>
          have refunded : ¬OfKey outbox ("order", "customer") (outboxRow 1 refund) := by
            unfold OfKey
            decide +kernel
          exact agree_cons refunded [outboxRow 2 m2]
      | succ earlier => exact fun _ _ => .rfl
    refine ⟨⟨?_, fun _ => rfl, fun _ _ => ⟨_, rfl⟩, ?_⟩,
      ⟨?_, fun _ => rfl, fun _ _ => ⟨_, rfl⟩, ?_⟩,
      ⟨added, ?_, rfl, fun _ => rfl, fun _ _ _ _ _ _ _ _ => ?_, fun _ _ _ _ _ _ _ _ _ _ => ?_⟩⟩
    case refine_5 | refine_6 | refine_7 => simp only [Round.time, ordersOnly, withRefunds, outage]
    all_goals
      clear added
      revert earlier
      decide +kernel
  · apply claim.2 [] [] _ _ (fun _ _ => .rfl) 1
    intro earlier less
    have returns : ∀ query : Inbox.Query Unit, ∃ reply, answering .processed query = .ok reply := by
      intro query
      cases query <;> exact ⟨_, rfl⟩
    have refunded : ¬OfKey inbox ("order", "customer") (inboxRow 1 refund) := by
      unfold OfKey
      decide +kernel
    refine ⟨⟨?_, fun _ => rfl, fun _ => returns, ?_⟩, ⟨?_, fun _ => rfl, fun _ => returns, ?_⟩,
      ⟨agree_cons refunded [inboxRow 2 m2], ?_, rfl, fun _ => rfl, fun _ _ _ _ _ _ _ _ => ?_,
        fun _ _ _ _ _ _ _ _ _ _ => ?_⟩⟩
    case refine_5 | refine_6 | refine_7 => simp only [Round.time, receivingBoth, handlingAt]
    all_goals
      revert earlier
      decide +kernel

end Pactix.Guarantees
