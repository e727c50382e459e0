import Pactix.Config

/-!
# Datetimes and SQL dialects

`datetime` values are kept in microseconds, the resolution of Python's type and
of both databases' columns.  MySQL columns hold naive values, PostgreSQL columns
aware ones; `instant` is the point in time either of them denotes, and what the
statements of both compare.
-/

namespace Pactix

/-- The dialect names that the stores distinguish. -/
inductive Dialect where
  | postgresql
  | mysql
  deriving DecidableEq, Repr

/-- A `datetime`: its wall clock in microseconds since the epoch, and its UTC
offset when it is aware. -/
structure DateTime where
  wall : Int
  utcoffset : Option TimeDelta
  deriving DecidableEq, Repr

namespace DateTime

/-- The UTC instant a value denotes.  A naive value is read as UTC, so of naive
columns and parameters the wall clocks are compared, as MySQL does. -/
def instant (value : DateTime) : Int :=
  value.wall - value.utcoffset.getD 0

/-- `datetime.now(UTC)` when the clock shows `instant`. -/
def utc (instant : Int) : DateTime := ⟨instant, some 0⟩

/-- `datetime + timedelta`. -/
def add (value : DateTime) (delta : TimeDelta) : DateTime :=
  { value with wall := value.wall + delta }

@[simp] theorem instant_utc (instant : Int) : (utc instant).instant = instant := by
  simp [utc, DateTime.instant]

@[simp] theorem instant_add (value : DateTime) (delta : TimeDelta) :
    (value.add delta).instant = value.instant + delta := by
  simp only [add, DateTime.instant]
  omega

end DateTime

/-- Strip an aware datetime to naive UTC for a MySQL `DATETIME` write. -/
def naiveUtc (value : DateTime) : DateTime := ⟨value.instant, none⟩

/-- Re-attach UTC to a datetime read back from the database. -/
def awareUtc (value : DateTime) : DateTime :=
  match value.utcoffset with
  | none => { value with utcoffset := some 0 }
  | some _ => value

@[simp] theorem awareUtc_awareUtc (value : DateTime) :
    awareUtc (awareUtc value) = awareUtc value := by
  obtain ⟨wall, _ | offset⟩ := value <;> rfl

@[simp] theorem instant_naiveUtc (value : DateTime) :
    (naiveUtc value).instant = value.instant := by
  simp [naiveUtc, DateTime.instant]

@[simp] theorem instant_awareUtc (value : DateTime) :
    (awareUtc value).instant = value.instant := by
  unfold awareUtc
  split
  next naive => simp [DateTime.instant, naive]
  next => rfl

/-- The value a store binds for a datetime column: naive UTC on MySQL. -/
def Dialect.column (dialect : Dialect) (value : DateTime) : DateTime :=
  if dialect = .mysql then naiveUtc value else value

@[simp] theorem Dialect.instant_column (dialect : Dialect) (value : DateTime) :
    (dialect.column value).instant = value.instant := by
  unfold Dialect.column
  split <;> simp

/-- What reaches the database of a datetime that a statement binds.  The drivers of
MySQL write the wall clock and leave the offset out. -/
def Dialect.bound (dialect : Dialect) (value : DateTime) : DateTime :=
  if dialect = .mysql then { value with utcoffset := none } else value

@[simp] theorem bound_naiveUtc (value : DateTime) :
    Dialect.mysql.bound (naiveUtc value) = naiveUtc value := rfl

/-- Only a value that has been converted is bound as the instant it denotes. -/
@[simp] theorem Dialect.bound_column (dialect : Dialect) (value : DateTime) :
    dialect.bound (dialect.column value) = dialect.column value := by
  cases dialect <;> rfl

theorem Dialect.instant_bound (dialect : Dialect) (value : DateTime) :
    (dialect.bound (dialect.column value)).instant = value.instant := by
  rw [bound_column, instant_column]

/-- A clock reading is read back as it was written. -/
@[simp] theorem awareUtc_column_utc (dialect : Dialect) (instant : Int) :
    awareUtc (dialect.column (.utc instant)) = .utc instant := by
  cases dialect with
  | postgresql => rfl
  | mysql => simp [Dialect.column, naiveUtc, awareUtc, DateTime.instant, DateTime.utc]

end Pactix
