import Pactix.Guarantees.Leases
import Pactix.Inbox.Codec
import Pactix.Outbox.Codec

/-!
# Stored records

What is written to a row is read back from it, and the naive columns of MySQL keep the order
of time.
-/

namespace Pactix.Guarantees

/-- On either dialect a record with aware datetimes is read back as it was written, from
whatever row holds its values; naive UTC values compare as the instants do, and so do all
datetime columns that the queries look at. -/
theorem records_round_trip {J : Type} (dialect : Dialect) :
    (∀ record : Outbox.OutboxMessageRecord J,
      (∀ time ∈ record.datetimes, time.utcoffset.isSome = true) →
      ∃ values, Outbox.Codec.recordValues record dialect = .ok values ∧
        ∀ row : RowMapping J, row.Returns values →
          ∃ read, Outbox.Codec.mapRecord row = .ok read ∧ read.Equal record) ∧
    (∀ record : Inbox.InboxMessageRecord J,
      (∀ time ∈ record.datetimes, time.utcoffset.isSome = true) →
      ∃ values, Inbox.Codec.recordValues record dialect = .ok values ∧
        ∀ row : RowMapping J, row.Returns values →
          ∃ read, Inbox.Codec.mapRecord row = .ok read ∧ read.Equal record) ∧
    (∀ left right : DateTime, left.utcoffset.isSome = true → right.utcoffset.isSome = true →
      (naiveUtc left).less (naiveUtc right) = .ok (decide (left.instant < right.instant))) ∧
    (∀ (record other : Outbox.OutboxMessageRecord J) (now : DateTime) row otherRow,
      (∀ time ∈ now :: record.datetimes ++ other.datetimes, time.utcoffset.isSome = true) →
      Outbox.Codec.recordValues record .mysql = .ok row →
      Outbox.Codec.recordValues other .mysql = .ok otherRow →
        Outbox.Codec.ComparesInstants record other now row otherRow) ∧
    (∀ (record other : Inbox.InboxMessageRecord J) (now : DateTime) row otherRow,
      (∀ time ∈ now :: record.datetimes ++ other.datetimes, time.utcoffset.isSome = true) →
      Inbox.Codec.recordValues record .mysql = .ok row →
      Inbox.Codec.recordValues other .mysql = .ok otherRow →
        Inbox.Codec.ComparesInstants record other now row otherRow) := by
  refine ⟨?_, ?_, ?_, ?_, ?_⟩
  · intro record aware
    exact Outbox.Codec.mapRecord_recordValues dialect aware
  · intro record aware
    exact Inbox.Codec.mapRecord_recordValues dialect aware
  · intro left right _ _
    rfl
  · intro record other now row otherRow _ stored otherStored
    exact Outbox.Codec.comparesInstants now stored otherStored
  · intro record other now row otherRow _ stored otherStored
    exact Inbox.Codec.comparesInstants now stored otherStored

/-- Noon in a zone whose offset is given in hours. -/
def noon (hours : Int) : DateTime := ⟨12 * 3600 * second, some (hours * 3600 * second)⟩

/-- Appended at noon in Berlin, and claimed until noon in New York. -/
def traveller : Outbox.OutboxMessageRecord Unit :=
  { Outbox.OutboxMessageRecord.ofEnvelope m1 {} 1 (noon 2) with
    status := .processing, leaseUntil := some (noon (-4)) }

def parcel : Inbox.InboxMessageRecord Unit := .ofEnvelope "shop" m1 {} 1 (noon 2)

theorem records_round_trip_sample :
    (∃ values, Outbox.Codec.recordValues traveller .mysql = .ok values ∧
      values.column "lease_until" = .datetime ⟨16 * 3600 * second, none⟩ ∧
      (∃ read, Outbox.Codec.mapRecord values = .ok read ∧ read.Equal traveller) ∧
      Outbox.Codec.ComparesInstants traveller traveller (noon 0) values values) ∧
    (∃ values, Inbox.Codec.recordValues parcel .mysql = .ok values ∧
      (∃ read, Inbox.Codec.mapRecord values = .ok read ∧ read.Equal parcel) ∧
      Inbox.Codec.ComparesInstants parcel parcel (noon 0) values values) ∧
    (naiveUtc (noon 2)).less (naiveUtc (noon (-4))) = .ok true := by
  have claim := records_round_trip (J := Unit) .mysql
  refine ⟨?_, ?_, ?_⟩
  · obtain ⟨values, written, mapped⟩ := claim.1 traveller (by decide +kernel)
    refine ⟨values, written, ?_, mapped values (.refl values),
      claim.2.2.2.1 traveller traveller _ _ _ (by decide +kernel) written written⟩
    obtain rfl := Except.ok.inj (written.symm.trans (Outbox.Codec.recordValues_eq _ _))
    decide +kernel
  · obtain ⟨values, written, mapped⟩ := claim.2.1 parcel (by decide +kernel)
    exact ⟨values, written, mapped values (.refl values),
      claim.2.2.2.2 parcel parcel _ _ _ (by decide +kernel) written written⟩
  · rw [claim.2.2.1 (noon 2) (noon (-4)) rfl rfl]
    decide +kernel

end Pactix.Guarantees
