/-! Errors of the database and of the connections to it. -/

namespace PagedQuery

inductive StorageError where
  /-- A row was expected and there is none. -/
  | rowNotFound
  | poolClosed
  | poolTimedOut
  | workerCrashed
  /-- A transaction did not begin. -/
  | beginFailed
  /-- The server sent what the protocol does not allow. -/
  | protocol (detail : String)
  | columnNotFound (name : String)
  | columnIndexOutOfBounds (index length : Nat)
  /-- A cell does not have the type that was asked for; the column goes by name or position. -/
  | columnDecode (column : String)
  | typeNotFound (name : String)
  /-- The address of the database makes no sense. -/
  | configuration (detail : String)
  | decode (detail : String)
  /-- The server refused a statement, with its code for the reason. -/
  | database (code : Option String) (message : String)
deriving DecidableEq, Repr, Inhabited

namespace StorageError

def message : StorageError → String
  | rowNotFound => "no rows returned by a query that expected to return at least one row"
  | poolClosed => "attempted to acquire a connection on a closed pool"
  | poolTimedOut => "pool timed out while waiting for an open connection"
  | workerCrashed => "attempted to communicate with a crashed background worker"
  | beginFailed => "got unexpected connection status after attempting to begin transaction"
  | protocol detail => s!"encountered unexpected or invalid data: {detail}"
  | columnNotFound name => s!"no column found for name: {name}"
  | columnIndexOutOfBounds index length =>
    s!"column index out of bounds: the len is {length}, but the index is {index}"
  | columnDecode column => s!"error occurred while decoding column {column}"
  | typeNotFound name => s!"type named {name} not found"
  | configuration detail => s!"error with configuration: {detail}"
  | decode detail => s!"error occurred while decoding: {detail}"
  | database _ message => s!"error returned from database: {message}"

/-- The code with which the server refuses a second row under a unique key. -/
def duplicateKey : String := "23505"

def isDuplicateKey : StorageError → Bool
  | database code _ => code == some duplicateKey
  | _ => false

/-- The error in a caller's own words: one for a missing row, one for a duplicate, and a way to
carry every other error. -/
def classify (e : StorageError) (notFound duplicate : ε) (other : StorageError → ε) : ε :=
  match e with
  | rowNotFound => notFound
  | e => if e.isDuplicateKey then duplicate else other e

end StorageError

end PagedQuery
