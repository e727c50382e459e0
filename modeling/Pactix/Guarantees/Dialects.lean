import Pactix.Guarantees.Leases
import Pactix.Inbox.Agreement
import Pactix.Inbox.Receiving
import Pactix.Outbox.Agreement

/-!
# Agreement of the dialects

The same calls on MySQL and on PostgreSQL: what they answer, and the rows they leave.
-/

namespace Pactix.Inbox

open Foundation

variable {J : Type}

/-- After every call both dialects have answered alike and hold the same messages. -/
def ReceiptsAgree (arrivals : List (Arrival J)) : Prop :=
  List.Forall₂ Agree (trace (receive .postgresql) arrivals [])
    (trace (receive .mysql) arrivals [])

theorem alike_nil : Alike ([] : List (Arrival J)) [] [] :=
  ⟨rfl, rfl, rfl, rfl, by simp⟩

theorem fits_receive_mysql (arrival : Arrival J) {table : Table J}
    (fits : ∀ row ∈ table, row.received.Fits) :
    ∀ row ∈ (receive .mysql arrival table).2, row.received.Fits := by
  unfold receive
  split
  next after outcome saved =>
    have inserted : after = (insertIgnore (recordValues arrival.record .mysql) table).1 :=
      saveReceived_mysql saved
    change ∀ row ∈ after, row.received.Fits
    rcases insertIgnore_eq (recordValues arrival.record .mysql) table with
      skipped | ⟨added, _⟩
    · rw [inserted, skipped]
      exact fits
    · rw [inserted, added]
      intro row membership
      rcases List.mem_append.mp membership with earlier | new
      · exact fits row earlier
      · rw [List.mem_singleton.mp new]
        exact fits_truncated _
  next => exact fits

/-- Calls that fit where they store a message are answered alike. -/
theorem agree_of_fits {arrivals : List (Arrival J)}
    (fits : ∀ arrival ∈ admitted [] arrivals, arrival.received.Fits) :
    ReceiptsAgree arrivals := by
  apply trace_lockstep (R := fun calls left right => ∃ earlier, Alike earlier left right ∧
    ∀ arrival ∈ admitted earlier calls, arrival.received.Fits)
  · rintro arrival arrivals left right ⟨earlier, alike, fits⟩
    rw [admitted] at fits
    split at fits
    next isAdmitted =>
      rw [List.forall_mem_cons] at fits
      obtain ⟨agree, after⟩ := alike.receive arrival fun _ => fits.1
      rw [if_pos isAdmitted] at after
      exact ⟨agree, _, after, fits.2⟩
    next refused =>
      obtain ⟨agree, after⟩ := alike.receive arrival fun yes =>
        absurd yes refused
      rw [if_neg refused] at after
      exact ⟨agree, _, after, fits⟩
  · exact ⟨[], alike_nil, fits⟩

/-- When the tables agree after an admitted call, the call fits: the MySQL table has only
rows that do. -/
theorem Alike.fits_of_agree {earlier : List (Arrival J)}
    {postgresql mysql : Table J} (alike : Alike earlier postgresql mysql) {arrival : Arrival J}
    (isAdmitted : admits earlier arrival = true)
    (agree : Agree (Inbox.receive .postgresql arrival postgresql)
      (Inbox.receive .mysql arrival mysql)) : arrival.received.Fits := by
  have stored := agree.stored
  rw [alike.receive_postgresql isAdmitted] at stored
  have added : arrival.received ∈
      (Inbox.receive .mysql arrival mysql).2.map (·.received) := by
    apply stored.mem_iff.mp
    rw [List.map_append, List.map_singleton, received_recordValues]
    exact List.mem_append_right _ (List.mem_singleton.mpr rfl)
  obtain ⟨row, membership, same⟩ := List.mem_map.mp added
  exact same ▸ fits_receive_mysql arrival alike.fits row membership

/-- Along traces that agree, every admitted call fits. -/
theorem fits_of_trace {arrivals earlier : List (Arrival J)}
    {postgresql mysql : Table J} (alike : Alike earlier postgresql mysql)
    (agree : List.Forall₂ Agree (trace (receive .postgresql) arrivals postgresql)
      (trace (receive .mysql) arrivals mysql)) :
    ∀ arrival ∈ admitted earlier arrivals, arrival.received.Fits := by
  induction arrivals generalizing earlier postgresql mysql with
  | nil => simp [admitted]
  | cons arrival arrivals ih =>
      cases agree with
      | cons first rest =>
          have fits := fun isAdmitted => alike.fits_of_agree isAdmitted first
          have later := ih (alike.receive arrival fits).2 rest
          rw [admitted]
          split at later
          next isAdmitted =>
            rw [if_pos isAdmitted]
            exact List.forall_mem_cons.mpr ⟨fits isAdmitted, later⟩
          next refused =>
            rw [if_neg refused]
            exact later

/-- On MySQL a message with an overlong id is stored cut, and raises when it is received
again. -/
theorem receive_mysql_twice {first second : Arrival J}
    (notBlank : isBlank first.source = false) (same : second.message = first.message)
    (long : ¬Short first.envelope.metadata.messageId) :
    inserted (receive .mysql first []).1 = some true ∧
      (receive .mysql second (receive .mysql first []).2).1 =
        .error .noResult := by
  have added : insertIgnore (recordValues first.record .mysql) [] =
      ([truncated (recordValues first.record .mysql)], 1) := by
    simp [insertIgnore_conflict]
  have sameSource : second.source = first.source := congrArg Prod.fst same
  have sameId : second.envelope.metadata.messageId = first.envelope.metadata.messageId :=
    congrArg Prod.snd same
  rw [receive_mysql_inserted notBlank (by rw [added]), added]
  refine ⟨rfl, ?_⟩
  have skipped : insertIgnore (recordValues second.record .mysql)
      [truncated (recordValues first.record .mysql)] =
        ([truncated (recordValues first.record .mysql)], 0) := by
    rw [insertIgnore_conflict, if_pos]
    refine .inr (List.mem_singleton.mpr (Prod.ext ?_ ?_))
    · exact congrArg truncate sameSource
    · exact congrArg truncate sameId
  rw [receive_mysql_skipped (sameSource ▸ notBlank) skipped, find_unknown]
  intro found
  have stored : second.envelope.metadata.messageId =
      truncate first.envelope.metadata.messageId :=
    congrArg Prod.snd (List.mem_singleton.mp found)
  rw [← sameId, stored] at long
  exact long (short_truncate _)

end Pactix.Inbox

namespace Pactix.Guarantees

open Foundation (trace trace_cons trace_lockstep)
open Inbox (Arrival ReceiptsAgree admits admitted receive inserted)

/-- MySQL receives like PostgreSQL exactly when every call that stores a message has
indexed texts of at most 255 characters. -/
theorem receipts_agree_iff {J : Type} (arrivals : List (Arrival J)) :
    ReceiptsAgree arrivals ↔
      ∀ arrival ∈ admitted [] arrivals, arrival.received.Fits :=
  ⟨Inbox.fits_of_trace Inbox.alike_nil, Inbox.agree_of_fits⟩

/-- A message id one character longer than the column. -/
@[irreducible] def longId : String := String.ofList (List.replicate 256 'm')

theorem longId_not_short : ¬Inbox.Short longId := by
  unfold longId Inbox.Short
  rw [String.length_ofList, List.length_replicate]
  decide

theorem longId_not_blank : isBlank longId = false := by
  unfold longId isBlank
  rw [String.toList_ofList, List.all_replicate]
  decide

def overlong : MessageEnvelope Unit where
  metadata := { messageId := longId, eventType := "order" }
  payload := ()
  valid := by
    have text : isBlank "order" = false := by decide
    simp [MessageMetadata.validate, text, longId_not_blank]

/-- The message is delivered and delivered again. -/
def delivery : Arrival Unit := ⟨1, 0, "shop", overlong, {}⟩

def redelivery : Arrival Unit := ⟨2, 1, "shop", overlong, {}⟩

/-- MySQL stores the message cut, and raises where PostgreSQL finds the duplicate. -/
theorem overlong_receipts_disagree :
    (trace (receive .mysql) [delivery, redelivery] []).map (inserted ·.1) =
        [some true, none] ∧
      (trace (receive .postgresql) [delivery, redelivery] []).map
        (inserted ·.1) = [some true, some false] ∧
      ¬ReceiptsAgree [delivery, redelivery] := by
  have notBlank : isBlank "shop" = false := by decide
  have isAdmitted : admits [] delivery = true := by simp [admits, delivery, notBlank]
  obtain ⟨stored, raised⟩ : inserted (receive .mysql delivery []).1 = some true ∧
      (receive .mysql redelivery (receive .mysql delivery []).2).1 = .error .noResult :=
    Inbox.receive_mysql_twice notBlank rfl longId_not_short
  have added : receive .postgresql delivery [] =
      (.ok ⟨_, true⟩, [Inbox.recordValues delivery.record .postgresql]) :=
    Inbox.alike_nil.receive_postgresql isAdmitted
  have known : redelivery.message ∈
      [Inbox.recordValues delivery.record .postgresql].map (·.message) :=
    List.mem_singleton.mpr rfl
  have found : ∃ row ∈ _, receive .postgresql redelivery
      [Inbox.recordValues delivery.record .postgresql] = (.ok ⟨_, false⟩, _) :=
    Inbox.receive_postgresql_known notBlank known
  obtain ⟨row, _, found⟩ := found
  refine ⟨?_, ?_, fun agree => ?_⟩
  · simp only [trace_cons, List.map_cons, stored, raised]
    rfl
  · simp only [trace_cons, List.map_cons, added, found]
    rfl
  · have fits := Inbox.fits_of_trace Inbox.alike_nil agree delivery
      (by rw [admitted, if_pos isAdmitted]; exact List.mem_cons_self)
    exact longId_not_short fits.messageId

/-! ## Store operations -/

/-- A text one byte longer than a `TEXT` column. -/
@[irreducible] def longText : String := String.ofList (List.replicate 65536 'x')

theorem longText_overflows : ¬TextType.text.Holds longText := by
  have bytes : ∀ count, String.utf8Len (List.replicate count 'x') = count := by
    intro count
    induction count with
    | zero => rfl
    | succ count ih =>
        rw [List.replicate_succ, String.utf8Len_cons, ih]
        rfl
  unfold longText
  simp only [TextType.Holds, String.utf8ByteSize_ofList, bytes]
  decide

def appended : Outbox.Statement Unit := ⟨.append ⟨1, 0, m1, {}⟩, fun _ => .plain⟩

def failedLong : Outbox.Statement Unit := ⟨.markFailed second 1 longText, fun _ => .plain⟩

/-- A time in seconds, on a clock two hours ahead of UTC. -/
def abroad (time : Int) : DateTime := ⟨time * second + 7200000000, some 7200000000⟩

/-- Two messages of one group: the first is claimed, retried, reclaimed and published. -/
def outboxDay : List (Outbox.Operation Unit) :=
  [.append ⟨1, 0, m1, {}⟩, .append ⟨2, second, m2, {}⟩, .append ⟨3, 2 * second, m1, {}⟩,
    .claimReady {} (abroad 3), .markRetry (4 * second) 1 "down" (abroad 5),
    .claimReady {} (abroad 6), .reclaimExpired (abroad 40), .claimReady {} (abroad 41),
    .markPublished 1 (abroad 42), .claimReady {} (abroad 43), .markFailed (44 * second) 2 "no",
    .listByStatus .published]

def inboxDay : List Inbox.Operation :=
  [.claimReady {} (abroad 3), .claimReadyUnordered {} (abroad 3), .markRetry (4 * second) 1 "down"
    (abroad 5), .reclaimExpired (abroad 40), .claimReadyUnordered {} (abroad 41),
    .markProcessed 1 (abroad 42), .markFailed (43 * second) 2 "no"]

/-- Two received messages, as either dialect stores them. -/
def inboxRows (dialect : Dialect) : Inbox.Table Unit :=
  [Inbox.recordValues (.ofEnvelope "shop" m1 {} 1 (.utc 0)) dialect,
    Inbox.recordValues (.ofEnvelope "shop" m2 {} 2 (.utc second)) dialect]

end Pactix.Guarantees
