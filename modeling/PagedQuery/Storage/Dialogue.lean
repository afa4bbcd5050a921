import PagedQuery.Selection
import PagedQuery.Storage.Row

/-!
Dialogues with a database: statements are sent one at a time, and the reply to one decides what
follows. A dialogue is run against any server, that is, any rule by which replies follow from
statements.
-/

namespace PagedQuery

inductive Control where
  | begin | commit | rollback
deriving DecidableEq, Repr, Inhabited

def Control.sql : Control → String
  | begin => "BEGIN"
  | commit => "COMMIT"
  | rollback => "ROLLBACK"

/-- A statement as it is sent: a query with its arguments, or a delimiter. -/
inductive Statement where
  | query (sql : String) (args : List Arg)
  | control (c : Control)
deriving Inhabited

def Statement.sql : Statement → String
  | query sql _ => sql
  | control c => c.sql

abbrev Reply := Except StorageError ResultSet

/-- A finite exchange of statements and replies that ends with a value, and the events that are
reported on the way. -/
inductive Dialogue (α : Type) : Type where
  | done (a : α)
  | send (s : Statement) (next : Reply → Dialogue α)
  | report (e : LogEvent) (rest : Dialogue α)

namespace Dialogue

def bind (d : Dialogue α) (f : α → Dialogue β) : Dialogue β :=
  match d with
  | done a => f a
  | send s next => send s fun r => bind (next r) f
  | report e rest => report e (bind rest f)

instance : Monad Dialogue where
  pure := done
  bind := bind

@[simp] theorem done_bind (a : α) (f : α → Dialogue β) : (done a >>= f) = f a := rfl

@[simp] theorem pure_bind' (a : α) (f : α → Dialogue β) : ((pure a : Dialogue α) >>= f) = f a := rfl

@[simp] theorem send_bind (s : Statement) (next : Reply → Dialogue α) (f : α → Dialogue β) :
    (send s next >>= f) = send s fun r => next r >>= f := rfl

@[simp] theorem report_bind (e : LogEvent) (rest : Dialogue α) (f : α → Dialogue β) :
    (report e rest >>= f) = report e (rest >>= f) := rfl

def ask (s : Statement) : Dialogue Reply := send s done

/-- Sends a query; its arguments travel as the database takes them. -/
def askQuery (q : Query) : Dialogue Reply := ask (.query q.sql (q.args.map Arg.bound))

def tell (e : LogEvent) : Dialogue Unit := report e (done ())

/-- Reports events in order. -/
def tellAll : List LogEvent → Dialogue Unit
  | [] => done ()
  | e :: es => report e (tellAll es)

/-- What a dialogue leaves behind: its value, the state of the server, the statements that were
sent, and the events reported, both in order. -/
structure Run (σ α : Type) where
  value : α
  state : σ
  sent : List Statement
  events : List LogEvent

/-- Runs a dialogue against a server whose replies follow from its state. -/
def run (answer : σ → Statement → Reply × σ) : Dialogue α → σ → Run σ α
  | done a, s => ⟨a, s, [], []⟩
  | send statement next, s =>
    let (reply, s) := answer s statement
    let r := run answer (next reply) s
    { r with sent := statement :: r.sent }
  | report e rest, s =>
    let r := run answer rest s
    { r with events := e :: r.events }

/-- Runs a dialogue without a connection: nothing is sent, and every statement fails. -/
def fail (e : StorageError) (d : Dialogue α) (s : σ) : Run σ α :=
  match d with
  | done a => ⟨a, s, [], []⟩
  | send _ next => fail e (next (.error e)) s
  | report event rest =>
    let r := fail e rest s
    { r with events := event :: r.events }

end Dialogue

/-- A server that replies from a list, one reply to each query, whatever it says, and that refuses
some of the delimiters. A query after the last reply touches nothing. -/
structure Script where
  replies : List Reply
  refusals : List (Control × StorageError)
deriving Inhabited

namespace Script

def answer (s : Script) : Statement → Reply × Script
  | .control c =>
    (match s.refusals.find? fun r => r.1 == c with
      | some r => .error r.2
      | none => .ok (.touched 0), s)
  | .query .. =>
    match s.replies with
    | [] => (.ok (.touched 0), s)
    | reply :: rest => (reply, { s with replies := rest })

end Script

end PagedQuery
