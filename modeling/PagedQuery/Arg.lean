import PagedQuery.Json
import PagedQuery.Timestamp
import PagedQuery.Uuid

/-!
Query arguments: the values that a statement binds to its numbered placeholders, and typed nulls.
-/

namespace PagedQuery

inductive ArgKind where
  | text | int | bigint | float | bool | uuid | timestamp | json
deriving DecidableEq, Repr, Inhabited

inductive Value where
  | text (s : String)
  | int (n : Int32)
  | bigint (n : Int64)
  | float (x : Binary64)
  | bool (b : Bool)
  | uuid (u : Uuid)
  | timestamp (t : Timestamp)
  | json (j : Json)
deriving Inhabited

/-- The argument of a placeholder: a value, or a null that carries the type of its parameter. -/
inductive Arg where
  | value (v : Value)
  | null (kind : ArgKind)
deriving Inhabited

namespace Value

def kind : Value → ArgKind
  | text _ => .text
  | int _ => .int
  | bigint _ => .bigint
  | float _ => .float
  | bool _ => .bool
  | uuid _ => .uuid
  | timestamp _ => .timestamp
  | json _ => .json

/-- Equality of values; floating numbers are compared as numbers. -/
def beq : Value → Value → Bool
  | text a, text b => a == b
  | int a, int b => a == b
  | bigint a, bigint b => a == b
  | float a, float b => a.numEq b
  | bool a, bool b => a == b
  | uuid a, uuid b => a == b
  | timestamp a, timestamp b => a == b
  | json a, json b => a == b
  | _, _ => false

instance : BEq Value := ⟨beq⟩

end Value

namespace Arg

def kind : Arg → ArgKind
  | value v => v.kind
  | null k => k

/-- Equality of arguments: of values, or of the types of two nulls. -/
def beq : Arg → Arg → Bool
  | value a, value b => a == b
  | null a, null b => a == b
  | _, _ => false

instance : BEq Arg := ⟨beq⟩

/-- An optional value of the given type: itself when present, else the null of that type. -/
def ofOption (kind : ArgKind) : Option Value → Arg
  | some v => value v
  | none => null kind

/-- The argument as the database receives it: instants are cut to microseconds. -/
def bound : Arg → Arg
  | value (.timestamp t) => value (.timestamp t.toMicros)
  | a => a

end Arg

end PagedQuery
