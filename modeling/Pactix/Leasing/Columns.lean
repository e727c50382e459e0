import Pactix.Config
import Pactix.Dialect
import Pactix.Foundation.Table
import Pactix.Message

/-!
# Reclaiming and claiming

The statements that hand rows to workers are the same for `outbox_message` and
`inbox_message` up to the names of columns.  They are written once over the
columns they use; each store applies them to its own table.
-/

namespace Pactix

open Foundation

/-- The types of text columns on MySQL: `VARCHAR(255)` for indexed text, else `TEXT`. -/
inductive TextType where
  | varchar
  | text
  deriving DecidableEq, Repr

/-- A column of the type has room for the value.  A `TEXT` column counts bytes. -/
def TextType.Holds : TextType → String → Prop
  | .varchar, value => value.length ≤ 255
  | .text, value => value.utf8ByteSize ≤ 65535

instance : ∀ (type : TextType) (value : String), Decidable (type.Holds value)
  | .varchar, value => inferInstanceAs (Decidable (value.length ≤ 255))
  | .text, value => inferInstanceAs (Decidable (value.utf8ByteSize ≤ 65535))

/-- The columns of a message table that reclaiming and claiming use. -/
structure Columns (Row Status : Type) where
  id : Row → UUID
  eventType : Row → String
  orderingKey : Row → Option String
  /-- `created_at` in the outbox, `received_at` in the inbox. -/
  arrivedAt : Row → DateTime
  status : Row → Status
  availableAt : Row → DateTime
  leaseUntil : Row → Option DateTime
  pending : Status
  processing : Status
  /-- `SET status = ..., lease_until = ..., updated_at = ...`. -/
  setLease : Status → Option DateTime → DateTime → Row → Row
  mapRecord : Row → Row

/-- Which of the claim queries is used. -/
inductive ClaimQuery where
  | fifo
  | unordered
  deriving DecidableEq, Repr

namespace Columns

variable {Row Status : Type} [DecidableEq Status] (columns : Columns Row Status)

/-- `status = 'processing' AND lease_until < now`.  A NULL lease compares as
unknown. -/
def leaseExpired (now : DateTime) (row : Row) : Bool :=
  decide (columns.status row = columns.processing) &&
    (columns.leaseUntil row).any fun lease => decide (lease.instant < now.instant)

/-- Return expired rows to pending, and count them. -/
def reclaimExpired (dialect : Dialect) (now : DateTime) (table : List Row) :
    List Row × Nat :=
  let now := dialect.bound (dialect.column now)
  (updateWhere (columns.leaseExpired now) (columns.setLease columns.pending none now) table,
    (table.filter (columns.leaseExpired now)).length)

/-- An older row of the same event type and ordering key that is not finished.
SQL's equality holds of no NULL key. -/
def olderUnfinished (candidate older : Row) : Bool :=
  decide (columns.eventType older = columns.eventType candidate) &&
    ((columns.orderingKey older).isSome &&
      decide (columns.orderingKey older = columns.orderingKey candidate)) &&
    decide ((columns.arrivedAt older).instant < (columns.arrivedAt candidate).instant) &&
    (decide (columns.status older = columns.pending) ||
      decide (columns.status older = columns.processing))

/-- `ordering_key IS NULL OR NOT EXISTS (...)`, which only the FIFO queries have. -/
def gate (table : List Row) (candidate : Row) : ClaimQuery → Bool
  | .unordered => true
  | .fifo =>
      (columns.orderingKey candidate).isNone || !table.any (columns.olderUnfinished candidate)

/-- The `WHERE` clause of the claim queries. -/
def claimable (query : ClaimQuery) (now : DateTime) (table : List Row)
    (candidate : Row) : Bool :=
  decide (columns.status candidate = columns.pending) &&
    decide ((columns.availableAt candidate).instant ≤ now.instant) &&
    columns.gate table candidate query

/-- The rows that a claim query selects and locks. -/
def selectClaimable (query : ClaimQuery) (choices : Choices Row UUID) (now : DateTime)
    (limit : Nat) (table : List Row) : List Row :=
  selectForUpdate choices columns.id (columns.claimable query now table)
    (fun row => (columns.arrivedAt row).instant) limit table

/-- `_claim` of PostgreSQL: select and update in one statement. -/
def claim (query : ClaimQuery) (limit : Nat) (leaseDuration : TimeDelta)
    (choices : Choices Row UUID) (now : DateTime) (table : List Row) :
    List Row × List Row :=
  let leaseUntil := now.add leaseDuration
  let claimable := (columns.selectClaimable query choices now limit table).map columns.id
  let (table, rows) := updateReturning choices
    (fun row => decide (columns.id row ∈ claimable))
    (columns.setLease columns.processing (some leaseUntil) now) table
  (table, rows.map columns.mapRecord)

/-- `_claim_mysql`: select, update by id, and mirror the update in the records. -/
def claimMysql (query : ClaimQuery) (limit : Nat) (leaseDuration : TimeDelta)
    (choices : Choices Row UUID) (now : DateTime) (table : List Row) :
    List Row × List Row :=
  let dbNow := naiveUtc now
  let leaseUntil := now.add leaseDuration
  let bound := Dialect.mysql.bound
  let rows := columns.selectClaimable query choices (bound dbNow) limit table
  if rows.isEmpty then
    (table, [])
  else
    (updateWhere (fun row => decide (columns.id row ∈ rows.map columns.id))
        (columns.setLease columns.processing (some (bound (naiveUtc leaseUntil))) (bound dbNow))
        table,
      rows.map fun row =>
        columns.setLease columns.processing (some leaseUntil) now (columns.mapRecord row))

/-- Claim ready rows under the lease of this pass. -/
def claimReady (dialect : Dialect) (query : ClaimQuery) (limit : Nat)
    (leaseDuration : TimeDelta) (choices : Choices Row UUID) (now : DateTime)
    (table : List Row) : List Row × List Row :=
  match dialect with
  | .mysql => columns.claimMysql query limit leaseDuration choices now table
  | .postgresql => columns.claim query limit leaseDuration choices now table

omit [DecidableEq Status] in
/-- `UPDATE ... SET assign WHERE id = ...`.  The updates that record an outcome
look at neither the status nor the lease of the row. -/
def updateById (id : UUID) (assign : Row → Row) (table : List Row) : List Row :=
  updateWhere (fun row => decide (columns.id row = id)) assign table

omit [DecidableEq Status] in
/-- MySQL's strict mode refuses to write an error text that `last_error`, a `TEXT` column,
has no room for. -/
def refusesError (dialect : Dialect) (id : UUID) (error : String) (table : List Row) : Bool :=
  decide (dialect = .mysql ∧ ¬TextType.text.Holds error) &&
    table.any fun row => decide (columns.id row = id)

omit [DecidableEq Status] in
/-- An update that writes an error text, unless the text is refused. -/
def markOrRefuse (dialect : Dialect) (id : UUID) (error : String) (after table : List Row) :
    Except Error Unit × List Row :=
  if columns.refusesError dialect id error table then
    (.error (.data "last_error"), table)
  else
    (.ok (), after)

omit [DecidableEq Status] in
/-- A text that has room is not refused. -/
theorem markOrRefuse_holds {error : String} (room : TextType.text.Holds error)
    (dialect : Dialect) (id : UUID) (after table : List Row) :
    columns.markOrRefuse dialect id error after table = (.ok (), after) := by
  simp [markOrRefuse, refusesError, room]

omit [DecidableEq Status] in
theorem markOrRefuse_refused {dialect : Dialect} {id : UUID} {error : String} {table : List Row}
    (refused : columns.refusesError dialect id error table = true) (after : List Row) :
    columns.markOrRefuse dialect id error after table = (.error (.data "last_error"), table) :=
  if_pos refused

omit [DecidableEq Status] in
/-- PostgreSQL refuses no error text. -/
theorem markOrRefuse_postgresql (id : UUID) (error : String) (after table : List Row) :
    columns.markOrRefuse .postgresql id error after table = (.ok (), after) := by
  simp [markOrRefuse, refusesError]

omit [DecidableEq Status] in
/-- A refused update leaves the table as it is. -/
theorem map_markOrRefuse_fixed {β : Type} {f : Row → β} {after table : List Row}
    (kept : after.map f = table.map f) (dialect : Dialect) (id : UUID) (error : String) :
    (columns.markOrRefuse dialect id error after table).2.map f = table.map f := by
  unfold markOrRefuse
  split
  · rfl
  · exact kept

end Columns

end Pactix
