import PagedQuery.Storage.Dialogue

/-!
Transactions: a body between BEGIN and COMMIT or ROLLBACK. The body's success is committed, its
failure is rolled back, and a transaction that is left open is rolled back by whoever drops it.
-/

namespace PagedQuery.Dialogue

/-- Rolls back a transaction that is dropped while it is open; whether that works is not
reported. -/
def dropOpen : Dialogue Unit := do
  let _ ← ask (.control .rollback)

def rollbackEvent (e : StorageError) : LogEvent :=
  .debug .queries "Transaction rollback failed" [("error", .text e.message)]

def commit (ofStorage : StorageError → ε) (a : α) : Dialogue (Except ε α) := do
  match ← ask (.control .commit) with
  | .ok _ => return .ok a
  | .error e =>
    dropOpen
    return .error (ofStorage e)

/-- Ends a transaction whose body failed; the failure stays what it is. -/
def rollback (failure : ε) : Dialogue (Except ε α) := do
  match ← ask (.control .rollback) with
  | .ok _ => return .error failure
  | .error e =>
    tell (rollbackEvent e)
    dropOpen
    return .error failure

/-- Runs a body in a transaction. -/
def transaction (ofStorage : StorageError → ε) (body : Dialogue (Except ε α)) :
    Dialogue (Except ε α) := do
  match ← ask (.control .begin) with
  | .error e => return .error (ofStorage e)
  | .ok _ => match ← body with
    | .ok a => commit ofStorage a
    | .error failure => rollback failure

/-- Runs a body in a transaction and then abandons it: it is dropped open, unless the body failed
before. -/
def abandonedTransaction (ofStorage : StorageError → ε) (body : Dialogue (Except ε α)) :
    Dialogue (Except ε Unit) := do
  match ← ask (.control .begin) with
  | .error e => return .error (ofStorage e)
  | .ok _ => match ← body with
    | .ok _ =>
      dropOpen
      return .ok ()
    | .error failure => rollback failure

end PagedQuery.Dialogue
