import PagedQuery.Binary64.Shortest
import PagedQuery.Json
import PagedQuery.Text.Quoted
import PagedQuery.Timestamp.Rfc3339
import PagedQuery.Uuid

/-!
Decoding JSON into the types of the library: primitive values, and records given as an object or as
the list of their fields. A failure names what was found and what was expected.
-/

namespace PagedQuery

/-- Why a JSON value is not what a type expects. -/
inductive DecodeError where
  /-- A value of the wrong kind. -/
  | wrongType (found : Json) (expected : String)
  /-- A whole number outside the range of its type. -/
  | outOfRange (found : Int) (expected : String)
  /-- An object where a variant with one key was expected. -/
  | notOneKey
  /-- A name that is not among the variants. -/
  | unknownVariant (found : String) (variants : List String)
  /-- An object without a required field. -/
  | missingField (field : String)
  /-- A list that ends before a required field of the record. -/
  | tooFew (length : Nat) (record : String) (fields : Nat)
  /-- A list that goes on after the last field of the record. -/
  | tooMany (length : Nat)
  /-- A text that spells no identifier. -/
  | badUuid (found : String)
  /-- A text that names no instant. -/
  | badTimestamp (found : String)

/-- How a message names a value it did not expect. -/
def Json.describe : Json → String
  | null => "null"
  | bool b => s!"boolean `{b}`"
  | int n => s!"integer `{n}`"
  | float x => "floating point `" ++ x.jsonText ++ "`"
  | string s => "string " ++ Text.quote s
  | list _ => "sequence"
  | object _ => "map"

/-- Variant names as a choice: one of two with `or`, more as a list. -/
def DecodeError.choice : List String → String
  | [a, b] => s!"`{a}` or `{b}`"
  | names => "one of " ++ String.intercalate ", " (names.map fun n => s!"`{n}`")

def DecodeError.message : DecodeError → String
  | wrongType found expected => s!"invalid type: {found.describe}, expected {expected}"
  | outOfRange found expected => s!"invalid value: integer `{found}`, expected {expected}"
  | notOneKey => "invalid value: map, expected map with a single key"
  | unknownVariant found variants => s!"unknown variant `{found}`, expected {choice variants}"
  | missingField field => s!"missing field `{field}`"
  | tooFew length record fields =>
    s!"invalid length {length}, expected struct {record} with {fields} elements"
  | tooMany length => s!"invalid length {length}, expected fewer elements in array"
  | badUuid found => s!"invalid identifier {Text.quote found}"
  | badTimestamp found => s!"invalid timestamp {Text.quote found}"

namespace Json

/-- A decoder of values of type `α`. -/
abbrev Decoder (α : Type) := Json → Except DecodeError α

/-- A whole number from `low` to `high`. -/
def decodeInteger (low high : Int) (expected : String) : Decoder Int
  | int n => if low ≤ n ∧ n ≤ high then .ok n else .error (.outOfRange n expected)
  | j => .error (.wrongType j expected)

def decodeInt64 : Decoder Int64 := fun j =>
  (decodeInteger Int64.minValue.toInt Int64.maxValue.toInt "i64" j).map Int64.ofInt

def decodeUInt32 : Decoder UInt32 := fun j =>
  (decodeInteger 0 (UInt32.size - 1) "u32" j).map fun n => UInt32.ofNat n.toNat

def decodeUInt64 : Decoder UInt64 := fun j =>
  (decodeInteger 0 (UInt64.size - 1) "u64" j).map fun n => UInt64.ofNat n.toNat

def decodeString : Decoder String
  | string s => .ok s
  | j => .error (.wrongType j "a string")

def decodeUuid : Decoder Uuid
  | string s => match Uuid.parse? s with
    | some u => .ok u
    | none => .error (.badUuid s)
  | j => .error (.wrongType j "a UUID string")

def decodeTimestamp : Decoder Timestamp
  | string s => match Timestamp.parse? s with
    | some t => .ok t
    | none => .error (.badTimestamp s)
  | j => .error (.wrongType j "a timestamp string")

/-- Null is an absent value. -/
def decodeOption (decode : Decoder α) : Decoder (Option α)
  | null => .ok none
  | j => (decode j).map some

def decodeList (decode : Decoder α) : Decoder (List α)
  | list items => items.mapM decode
  | j => .error (.wrongType j "a sequence")

/-- One of the named variants: its name, or an object with the name as only key and null under
it. -/
def decodeVariant (variants : List (String × α)) (j : Json) : Except DecodeError α :=
  let named (name : String) : Except DecodeError α :=
    match variants.find? (·.1 == name) with
    | some v => .ok v.2
    | none => .error (.unknownVariant name (variants.map (·.1)))
  match j with
  | string name => named name
  | object [(name, null)] => named name
  | object [(name, inner)] => do
    let _ ← named name
    .error (.wrongType inner "unit")
  | object _ => .error .notOneKey
  | j => .error (.wrongType j "string or map")

inductive Presence where
  /-- Always. -/
  | required
  /-- In the list form only; an object without it means null. -/
  | nullable
  /-- Never: the record has a default for it. -/
  | defaulted
deriving DecidableEq

/-- A field of a record: its name, when it must be there, and what reading a value for it does to
the record so far. -/
structure Field (σ : Type) where
  name : String
  presence : Presence
  read : Json → Except DecodeError (σ → σ)

/-- The field that `decode` reads and `set` puts into the record. -/
def Field.of (name : String) (presence : Presence) (decode : Decoder α) (set : σ → α → σ) :
    Field σ :=
  ⟨name, presence, fun j => (decode j).map fun a s => set s a⟩

/-- A record type: its name, its fields in the order of declaration, and the record that reading
starts from, which holds the defaults. -/
structure Record (σ : Type) where
  name : String
  fields : List (Field σ)
  blank : σ

namespace Record

def put (s : σ) (field : Field σ) (j : Json) : Except DecodeError σ :=
  (field.read j).map fun set => set s

/-- A record from an object: the known keys in their order in the object, then the check that no
required field is missing. -/
def ofObject (r : Record σ) (entries : List (String × Json)) : Except DecodeError σ := do
  let s ← entries.foldlM (fun s e =>
    match r.fields.find? (·.name == e.1) with
    | some field => put s field e.2
    | none => .ok s) r.blank
  match r.fields.find? fun f =>
      f.presence = .required && (Json.find? f.name entries).isNone with
  | some f => .error (.missingField f.name)
  | none => .ok s

/-- A record from the list of its fields; fields that have a default may be left off at the end. -/
def ofList (r : Record σ) (items : List Json) : Except DecodeError σ := do
  let s ← (r.fields.zip items).foldlM (fun s p => put s p.1 p.2) r.blank
  match (r.fields.drop items.length).findIdx? (·.presence ≠ .defaulted) with
  | some i => .error (.tooFew (items.length + i) r.name r.fields.length)
  | none => if r.fields.length < items.length then .error (.tooMany items.length) else .ok s

def decode (r : Record σ) : Decoder σ
  | object entries => r.ofObject entries
  | list items => r.ofList items
  | j => .error (.wrongType j ("struct " ++ r.name))

end Record

end Json

end PagedQuery
