import Pactix.Dialect
import Pactix.Foundation.Dict
import Pactix.Message

/-!
# Column values

What the stores write to a row and read back from one: dictionaries of values under the
names of the columns.
-/

namespace Pactix

open Foundation

variable {J α : Type}

/-- A value of a column.  JSON objects of strings are kept apart from other JSON. -/
inductive Value (J : Type) where
  | null
  | uuid (value : UUID)
  | text (value : String)
  | int (value : Int)
  | json (value : J)
  | headers (value : Headers)
  | datetime (value : DateTime)
  deriving DecidableEq

/-- The values of a row by the names of their columns. -/
abbrev RowMapping (J : Type) := List (String × Value J)

namespace Value

/-- `None` is NULL. -/
def ofOption (some : α → Value J) : Option α → Value J
  | .none => .null
  | .some value => some value

/-! Values of another type than the field has are refused where they are read. -/

def mismatch : Error := .other "TypeError"

def asUuid : Value J → Except Error UUID
  | .uuid value => .ok value
  | _ => .error mismatch

def asText : Value J → Except Error String
  | .text value => .ok value
  | _ => .error mismatch

def asInt : Value J → Except Error Int
  | .int value => .ok value
  | _ => .error mismatch

def asJson : Value J → Except Error J
  | .json value => .ok value
  | _ => .error mismatch

/-- `dict(value)`. -/
def asHeaders : Value J → Except Error Headers
  | .headers value => .ok value
  | _ => .error mismatch

/-- `aware_utc(value)`. -/
def asAwareUtc : Value J → Except Error DateTime
  | .datetime value => .ok (awareUtc value)
  | _ => .error mismatch

/-- `read(value) if value is not None else None`. -/
def optional (read : Value J → Except Error α) : Value J → Except Error (Option α)
  | .null => .ok none
  | value => (read value).map some

@[simp] theorem optional_text (value : Option String) :
    optional asText (ofOption .text value : Value J) = .ok value := by
  cases value <;> rfl

@[simp] theorem optional_awareUtc (value : Option DateTime) :
    optional asAwareUtc (ofOption .datetime value : Value J) = .ok (value.map awareUtc) := by
  cases value <;> rfl

/-- The database has returned what was written.  The keys of a JSON object have no order. -/
def Unchanged : Value J → Value J → Prop
  | .headers left, .headers right => left.items.Perm right.items
  | left, right => left = right

@[refl] theorem Unchanged.refl (value : Value J) : value.Unchanged value := by
  cases value <;> simp [Unchanged]

/-! ## Comparisons on MySQL -/

/-- `left < right` on naive columns, which is unknown of NULL. -/
def less : Value J → Value J → Option Bool
  | .datetime left, .datetime right => some (decide (left.wall < right.wall))
  | _, _ => none

/-- `left <= right` on naive columns. -/
def atMost : Value J → Value J → Option Bool
  | .datetime left, .datetime right => some (decide (left.wall ≤ right.wall))
  | _, _ => none

end Value

namespace RowMapping

/-- `row[key]`. -/
def item (row : RowMapping J) (key : String) : Except Error (Value J) :=
  match Dict.get key row with
  | some value => .ok value
  | none => .error (.other ("KeyError: " ++ key))

/-- Read a field of a row. -/
def read (row : RowMapping J) (key : String) (reader : Value J → Except Error α) :
    Except Error α := do
  reader (← row.item key)

/-- The value of a column. -/
def column (row : RowMapping J) (key : String) : Value J := (Dict.get key row).getD .null

/-- The loop of `_record_values` that strips datetimes to naive UTC. -/
def naive (values : RowMapping J) : List String → Except Error (RowMapping J)
  | [] => .ok values
  | key :: keys => do
      match ← values.item key with
      | .null => values.naive keys
      | .datetime value =>
          RowMapping.naive (Dict.set key (.datetime (naiveUtc value)) values) keys
      | _ => .error Value.mismatch

/-- The row has the columns with what was written to them. -/
def Returns (row values : RowMapping J) : Prop :=
  ∀ key value, Dict.get key values = some value →
    ∃ returned, Dict.get key row = some returned ∧ returned.Unchanged value

variable {row values : RowMapping J}

theorem Returns.refl (values : RowMapping J) : values.Returns values :=
  fun _ value written => ⟨value, written, .refl value⟩

/-- A field of a returned row is read as it was written. -/
theorem Returns.read_eq (returned : row.Returns values) (key : String)
    (reader : Value J → Except Error α)
    (refuses : ∀ headers, reader (.headers headers) = .error Value.mismatch) {value : Value J}
    (written : Dict.get key values = some value) : row.read key reader = reader value := by
  obtain ⟨stored, present, unchanged⟩ := returned key value written
  have same : reader stored = reader value := by
    unfold Value.Unchanged at unchanged
    split at unchanged
    next left right => rw [refuses left, refuses right]
    next => rw [unchanged]
  simp only [read, item, present, bind, Except.bind]
  exact same

/-- The headers of a returned row are those that were written, in some order. -/
theorem Returns.read_headers (returned : row.Returns values) (key : String) {headers : Headers}
    (written : Dict.get key values = some (.headers headers)) :
    ∃ stored, row.read key Value.asHeaders = .ok stored ∧ stored.items.Perm headers.items := by
  obtain ⟨value, present, unchanged⟩ := returned key _ written
  cases value with
  | headers stored =>
      refine ⟨stored, ?_, unchanged⟩
      simp [read, item, present, bind, Except.bind, Value.asHeaders]
  | null | uuid _ | text _ | int _ | json _ | datetime _ => simp [Value.Unchanged] at unchanged

end RowMapping

/-! ## Equality -/

/-- `left == right` of two datetimes: both aware or both naive, at the same instant. -/
def DateTime.Equal (left right : DateTime) : Prop :=
  left.utcoffset.isSome = right.utcoffset.isSome ∧ left.instant = right.instant

/-- `left == right` of two dictionaries. -/
def Headers.Equal (left right : Headers) : Prop := left.items.Perm right.items

/-- `left < right` of two datetimes. -/
def DateTime.less (left right : DateTime) : Except Error Bool :=
  match left.utcoffset, right.utcoffset with
  | none, none => .ok (decide (left.wall < right.wall))
  | some _, some _ => .ok (decide (left.instant < right.instant))
  | _, _ => .error (.other "TypeError: can't compare offset-naive and offset-aware datetimes")

theorem column_postgresql : Dialect.postgresql.column = id := rfl

theorem Headers.sorted_equal (headers : Headers) : headers.sorted.Equal headers :=
  List.perm_insertionSort _ _

/-- What is read back of an aware datetime equals it, on either dialect. -/
theorem equal_column (dialect : Dialect) {value : DateTime}
    (aware : value.utcoffset.isSome = true) :
    (awareUtc (dialect.column value)).Equal value := by
  constructor
  · cases dialect with
    | mysql => simp [Dialect.column, naiveUtc, awareUtc, aware]
    | postgresql =>
        obtain ⟨offset, known⟩ := Option.isSome_iff_exists.mp aware
        simp [Dialect.column, awareUtc, known]
  · rw [instant_awareUtc, Dialect.instant_column]

theorem rel_equal_column (dialect : Dialect) {value : Option DateTime}
    (aware : ∀ time ∈ value, time.utcoffset.isSome = true) :
    Option.Rel DateTime.Equal ((value.map dialect.column).map awareUtc) value := by
  cases value with
  | none => exact .none
  | some time => exact .some (equal_column dialect (aware time rfl))

end Pactix
