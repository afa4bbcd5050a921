import PagedQuery.Config.Database
import PagedQuery.Service
import PagedQuery.Storage.Address
import PagedQuery.Storage.Queries

/-!
Connection pools: opening one from a configuration, checking it, and closing it. A closed pool stays
closed, and sends nothing.
-/

namespace PagedQuery

structure Pool where
  isClosed : Bool := false
deriving DecidableEq, Repr, Inhabited

namespace Pool

/-- Runs a dialogue on a connection of the pool. -/
def run (p : Pool) (answer : σ → Statement → Reply × σ) (d : Dialogue α) (s : σ) :
    Dialogue.Run σ α :=
  if p.isClosed then d.fail .poolClosed s else d.run answer s

/-- Hands out no connection any more. -/
def close (_ : Pool) : Pool := { isClosed := true }

def closedEvent : LogEvent := .info .pool "Database pool closed" []

/-- Sends a trivial query; the database is well when the answer is 1. -/
def check : Dialogue (Except ServiceError Bool) := do
  match ← Dialogue.askQuery ⟨"SELECT 1", []⟩ with
  | .error e => return .error (.database e)
  | .ok result => match result.rows with
    | [] => return .error (.database .rowNotFound)
    | row :: _ => match Row.single Cell.int row with
      | .error e => return .error (.database e)
      | .ok n =>
        Dialogue.tell
          (.debug .pool "Database health check" [("answer", .number n.toInt)])
        return .ok (n == 1)

/-- Opens a pool. `reachable` says where a database answers; at other addresses the wait for a
connection runs out. -/
def connect (reachable : String → Bool) (c : DatabaseConfig) : Except ServiceError Pool :=
  match c.check with
  | .error e => .error (.configuration e)
  | .ok () =>
    if reachable c.url then .ok {}
    else match Address.parse c.url with
      | .ok _ => .error (.database .poolTimedOut)
      | .error e => .error (.database (.configuration e.message))

def connectedEvent (c : DatabaseConfig) : LogEvent :=
  .info .pool "Database pool connected"
    [("max_connections", .number c.maxConnections.toNat)]

end Pool

end PagedQuery
