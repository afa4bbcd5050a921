import PagedQuery.Storage.Dialogue

/-!
Queries as dialogues: one row, at most one, all, a count, or the number of rows touched. Errors of
the database come back unchanged.
-/

namespace PagedQuery.Dialogue

def queryEvent (name : String) (q : Query) : LogEvent :=
  .debug .queries name [("sql", .text q.sql), ("params", .number q.args.length)]

/-- Exactly one row: the first one; none is an error. -/
def oneRow (read : Row.Reader α) (q : Query) : Dialogue (Except StorageError α) := do
  tell (queryEvent "query_one" q)
  match ← askQuery q with
  | .error e => return .error e
  | .ok result => match result.rows with
    | [] => return .error .rowNotFound
    | row :: _ => return read row

/-- The first row, if there is one. -/
def firstRow (read : Row.Reader α) (q : Query) :
    Dialogue (Except StorageError (Option α)) := do
  tell (queryEvent "query_optional" q)
  match ← askQuery q with
  | .error e => return .error e
  | .ok result => match result.rows with
    | [] => return .ok none
    | row :: _ => return (read row).map some

/-- All rows; the first that cannot be read fails the query. -/
def allRows (read : Row.Reader α) (q : Query) : Dialogue (Except StorageError (List α)) := do
  tell (queryEvent "query_many" q)
  match ← askQuery q with
  | .error e => return .error e
  | .ok result => return result.rows.mapM read

def countRows (q : Query) : Dialogue (Except StorageError Int64) := do
  tell (queryEvent "query_count" q)
  match ← askQuery q with
  | .error e => return .error e
  | .ok result => match result.rows with
    | [] => return .error .rowNotFound
    | row :: _ => return Row.single Cell.bigint row

/-- The number of rows touched; none is an error. -/
def changeRows (q : Query) : Dialogue (Except StorageError Nat) := do
  tell (queryEvent "exec_expect_one" q)
  match ← askQuery q with
  | .error e => return .error e
  | .ok result =>
    if result.affected = 0 then return .error .rowNotFound else return .ok result.affected

end PagedQuery.Dialogue
