import PagedQuery.Arg
import PagedQuery.Storage.Error

/-!
Rows of results, and reading them into types. A cell is read only as the type it has; null is read
only where the type allows it.
-/

namespace PagedQuery

/-- A cell of a row: a value, or null. -/
abbrev Cell := Option Value

structure Row where
  columns : List String
  cells : List Cell
deriving Inhabited

/-- What a statement answers: column names, rows, and the number of rows it touched. -/
structure ResultSet where
  columns : List String
  cells : List (List Cell)
  affected : Nat
deriving Inhabited

namespace ResultSet

/-- The answer of a statement that touched `n` rows and returns none. -/
def touched (n : Nat) : ResultSet := ⟨[], [], n⟩

def ofRows (columns : List String) (cells : List (List Cell)) : ResultSet :=
  ⟨columns, cells, cells.length⟩

def rows (r : ResultSet) : List Row := r.cells.map fun cells => ⟨r.columns, cells⟩

end ResultSet

namespace Cell

abbrev Reader (α : Type) := Cell → Option α

def text : Reader String
  | some (.text s) => some s
  | _ => none

def int : Reader Int32
  | some (.int n) => some n
  | _ => none

def bigint : Reader Int64
  | some (.bigint n) => some n
  | _ => none

def bool : Reader Bool
  | some (.bool b) => some b
  | _ => none

def uuid : Reader Uuid
  | some (.uuid u) => some u
  | _ => none

/-- Reads an instant, which the database keeps in microseconds. -/
def timestamp : Reader Timestamp
  | some (.timestamp t) => some t.cutToMicros
  | _ => none

/-- Null is an absent value. -/
def optional (read : Reader α) : Reader (Option α)
  | none => some none
  | cell => (read cell).map some

end Cell

namespace Row

abbrev Reader (α : Type) := Row → Except StorageError α

def atIndex (read : Cell.Reader α) (i : Nat) : Reader α := fun row =>
  match row.cells[i]? with
  | none => .error (.columnIndexOutOfBounds i row.cells.length)
  | some cell => match read cell with
    | some a => .ok a
    | none => .error (.columnDecode (toString i))

/-- The cell of a column; of columns with the same name the last one counts. -/
def cell? (row : Row) (name : String) : Option Cell :=
  ((row.columns.zip row.cells).reverse.find? fun p => p.1 == name).map (·.2)

def named (read : Cell.Reader α) (name : String) : Reader α := fun row =>
  match row.cell? name with
  | none => .error (.columnNotFound name)
  | some cell => match read cell with
    | some a => .ok a
    | none => .error (.columnDecode name)

/-- Reads the first cell. -/
def single (read : Cell.Reader α) : Reader α := atIndex read 0

/-- Reads the first two cells, in order. -/
def pair (first : Cell.Reader α) (second : Cell.Reader β) : Reader (α × β) := fun row => do
  let a ← atIndex first 0 row
  let b ← atIndex second 1 row
  return (a, b)

end Row

end PagedQuery
