import Mathlib.Data.List.Sort
import Mathlib.Data.String.Basic
import Pactix.Config
import Pactix.Foundation.Dict

/-!
# Message metadata and envelopes

`MessageMetadata` carries delivery metadata and validates itself;
`MessageEnvelope` pairs validated metadata with a JSON payload, so an invalid
envelope cannot be built.  The payload type is a parameter: no modelled function
looks into it.
-/

namespace Pactix

open Foundation

/-- A `uuid.UUID`. -/
abbrev UUID := BitVec 128

instance : LawfulBEq UUID := inferInstance

/-- A `dict[str, str]`: its items in insertion order, one for each key. -/
structure Headers where
  items : List (String × String)
  keys_nodup : (items.map Prod.fst).Nodup
  deriving DecidableEq, Repr

namespace Headers

def empty : Headers := ⟨[], by simp⟩

/-- `dict(sorted(headers.items()))`. -/
def sorted (headers : Headers) : Headers where
  items := headers.items.insertionSort fun left right => left.1 ≤ right.1
  keys_nodup := by
    have permuted := List.perm_insertionSort
      (fun left right : String × String => left.1 ≤ right.1) headers.items
    exact (permuted.map Prod.fst).nodup_iff.mpr headers.keys_nodup

/-- Sorting sorted headers changes nothing. -/
@[simp] theorem sorted_sorted (headers : Headers) : headers.sorted.sorted = headers.sorted := by
  have ordered := List.pairwise_insertionSort
    (fun left right : String × String => left.1 ≤ right.1) headers.items
  simp only [sorted, Headers.mk.injEq]
  exact ordered.insertionSort_eq

/-! A dictionary keeps one item for each key, whatever is set. -/

/-- `headers.get(name)`. -/
def get (headers : Headers) (name : String) : Option String :=
  Dict.get name headers.items

/-- `headers.update(others)`. -/
def update (headers others : Headers) : Headers where
  items := Dict.update headers.items others.items
  keys_nodup := Dict.nodup_keys_update headers.keys_nodup others.items

/-- Set the names that have a value. -/
def setPresent (headers : Headers) (fields : List (String × Option String)) : Headers where
  items := Dict.setPresent fields headers.items
  keys_nodup := Dict.nodup_keys_setPresent headers.keys_nodup fields

/-- The dictionary of some pairs, in which the last pair of a name wins. -/
def ofItems (pairs : List (String × String)) : Headers where
  items := Dict.ofItems pairs
  keys_nodup := Dict.nodup_keys_ofItems pairs

/-- Sorting loses no header. -/
@[simp] theorem get_sorted (headers : Headers) (name : String) :
    headers.sorted.get name = headers.get name :=
  Dict.get_perm headers.keys_nodup (List.perm_insertionSort _ _)

/-- Rebuilding a dictionary from its items gives the dictionary. -/
@[simp] theorem ofItems_items (headers : Headers) : ofItems headers.items = headers := by
  have whole : Dict.ofItems headers.items = headers.items :=
    Dict.update_eq_append (by simpa using headers.keys_nodup)
  simp only [ofItems, whole]

section Fields

variable {headers : Headers} {fields : List (String × Option String)} {name : String}

/-- Fields of other names leave a header alone. -/
theorem get_setPresent_of_not
    (others : ∀ field ∈ fields, field.2.isSome = true → field.1 ≠ name) :
    (headers.setPresent fields).get name = headers.get name := by
  unfold get
  rw [Dict.get_eq_latest (headers.setPresent fields).keys_nodup,
    Dict.get_eq_latest headers.keys_nodup]
  congr 1
  apply Dict.latest_setPresent_of_not headers.keys_nodup
  intro field listed present
  exact decide_eq_false (others field listed present)

/-- A present field is found under its name. -/
theorem get_setPresent {value : String} (names : (fields.map Prod.fst).Nodup)
    (present : (name, some value) ∈ fields) :
    (headers.setPresent fields).get name = some value := by
  unfold get
  rw [Dict.get_eq_latest (headers.setPresent fields).keys_nodup]
  apply (Dict.latest_setPresent_value headers.keys_nodup names present (by simp) (by simp)).mpr
  cases found : Dict.latest (fun other => decide (other = name)) headers.items with
  | none =>
      refine .inl fun known => ?_
      simpa using Dict.latest_eq_none.mp found name known
  | some item =>
      exact .inr ⟨item, rfl, .inl (by simpa using (Dict.latest_eq_some found).2)⟩

end Fields

end Headers

/-- The characters that `str.strip()` removes. -/
def isSpace (character : Char) : Bool :=
  let code := character.toNat
  (0x09 ≤ code && code ≤ 0x0D) || (0x1C ≤ code && code ≤ 0x20) ||
    code == 0x85 || code == 0xA0 || code == 0x1680 ||
    (0x2000 ≤ code && code ≤ 0x200A) || code == 0x2028 || code == 0x2029 ||
    code == 0x202F || code == 0x205F || code == 0x3000

/-- `not text.strip()`. -/
def isBlank (text : String) : Bool := text.toList.all isSpace

/-- Delivery metadata for a single message. -/
structure MessageMetadata where
  messageId : String
  eventType : String
  messageKey : Option String := none
  orderingKey : Option String := none
  correlationId : Option String := none
  headers : Headers := .empty
  deriving DecidableEq, Repr

/-- Validate the metadata. -/
def MessageMetadata.validate (metadata : MessageMetadata)
    (requiresOrderingKey : Bool := false) : Except Error Unit :=
  if isBlank metadata.messageId then
    .error (.validation "message_id must not be empty")
  else if isBlank metadata.eventType then
    .error (.validation "event_type must not be empty")
  else
    let hasOrderingKey := metadata.orderingKey.any fun key => !isBlank key
    if requiresOrderingKey && !hasOrderingKey then
      .error (.validation "ordering_key is required for ordered event types")
    else if metadata.orderingKey.any isBlank then
      .error (.validation "ordering_key must not be empty when provided")
    else
      .ok ()

/-- Metadata are valid, or a `ValidationError` says what is wrong with them. -/
theorem MessageMetadata.validate_cases (metadata : MessageMetadata) :
    (metadata.validate = .ok () ∧ isBlank metadata.messageId = false ∧
        isBlank metadata.eventType = false ∧ metadata.orderingKey.any isBlank = false) ∨
      ((∃ message, metadata.validate = .error (.validation message)) ∧
        (isBlank metadata.messageId = true ∨ isBlank metadata.eventType = true ∨
          metadata.orderingKey.any isBlank = true)) := by
  unfold MessageMetadata.validate
  cases messageId : isBlank metadata.messageId with
  | true => simp
  | false =>
      cases eventType : isBlank metadata.eventType with
      | true => simp
      | false => cases orderingKey : metadata.orderingKey.any isBlank <;> simp

/-- A validated message metadata paired with its JSON payload. -/
structure MessageEnvelope (J : Type) where
  metadata : MessageMetadata
  payload : J
  valid : metadata.validate = .ok ()

namespace MessageEnvelope

variable {J : Type}

/-- `MessageEnvelope(metadata, payload)`, which validates. -/
def make (metadata : MessageMetadata) (payload : J) :
    Except Error (MessageEnvelope J) :=
  match valid : metadata.validate with
  | .ok () => .ok ⟨metadata, payload, valid⟩
  | .error error => .error error

/-- Valid metadata make an envelope. -/
theorem make_of_valid {metadata : MessageMetadata} (valid : metadata.validate = .ok ())
    (payload : J) : make metadata payload = .ok ⟨metadata, payload, valid⟩ := by
  unfold make
  split
  next => rfl
  next error invalid =>
    rw [valid] at invalid
    simp at invalid

/-- Other metadata make none. -/
theorem make_of_invalid {metadata : MessageMetadata} {error : Error}
    (invalid : metadata.validate = .error error) (payload : J) :
    make metadata payload = .error error := by
  unfold make
  split
  next valid =>
    rw [invalid] at valid
    simp at valid
  next other fails =>
    obtain rfl := Except.error.inj (invalid.symm.trans fails)
    rfl

/-- An envelope has the parts it was made from. -/
theorem make_eq_ok {metadata : MessageMetadata} {payload : J} {envelope : MessageEnvelope J}
    (made : make metadata payload = .ok envelope) :
    envelope.metadata = metadata ∧ envelope.payload = payload := by
  unfold make at made
  split at made
  next =>
    obtain rfl := Except.ok.inj made
    exact ⟨rfl, rfl⟩
  next => simp at made

/-- Building an envelope again from the parts of one succeeds. -/
@[simp] theorem make_parts (envelope : MessageEnvelope J) :
    make envelope.metadata envelope.payload = .ok envelope :=
  make_of_valid envelope.valid envelope.payload

end MessageEnvelope

end Pactix
