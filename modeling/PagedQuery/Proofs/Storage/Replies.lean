import PagedQuery.Proofs.Storage.Runs

/-! Queries as single exchanges: an event is reported, a statement is sent, and the value is read in
the reply alone. -/

namespace PagedQuery

variable {σ α : Type}

namespace Reply

/-- The first row, read; there has to be one. -/
def first (read : Row.Reader α) (reply : Reply) : Except StorageError α :=
  reply.bind fun result => match result.rows with
    | [] => .error .rowNotFound
    | row :: _ => read row

/-- The first row, read, if there is one. -/
def first? (read : Row.Reader α) (reply : Reply) : Except StorageError (Option α) :=
  reply.bind fun result => match result.rows with
    | [] => .ok none
    | row :: _ => (read row).map some

/-- The number of rows touched; there has to be one. -/
def changed (reply : Reply) : Except StorageError Nat :=
  reply.bind fun result =>
    if result.affected = 0 then .error .rowNotFound else .ok result.affected

/-- All rows, read one after the other. -/
def all (read : Row.Reader α) (reply : Reply) : Except StorageError (List α) :=
  reply.bind fun result => result.rows.mapM read

end Reply

namespace Dialogue

/-- One query, reported before it is sent, and the value of its reply. -/
def exchange (event : LogEvent) (q : Query) (value : Reply → α) : Dialogue α :=
  report event (send q.statement fun reply => done (value reply))

theorem oneRow_eq (read : Row.Reader α) (q : Query) :
    oneRow read q = exchange (queryEvent "query_one" q) q (Reply.first read) := by
  apply congrArg (report _ <| send _ ·)
  funext reply
  rcases reply with e | ⟨columns, cells, affected⟩
  · rfl
  · cases cells <;> rfl

theorem firstRow_eq (read : Row.Reader α) (q : Query) :
    firstRow read q = exchange (queryEvent "query_optional" q) q (Reply.first? read) := by
  apply congrArg (report _ <| send _ ·)
  funext reply
  rcases reply with e | ⟨columns, cells, affected⟩
  · rfl
  · cases cells <;> rfl

theorem changeRows_eq (q : Query) :
    changeRows q = exchange (queryEvent "exec_expect_one" q) q Reply.changed := by
  apply congrArg (report _ <| send _ ·)
  funext reply
  rcases reply with e | ⟨columns, cells, affected⟩
  · rfl
  · cases affected <;> rfl

theorem countRows_eq (q : Query) : countRows q =
    exchange (queryEvent "query_count" q) q (Reply.first (Row.single Cell.bigint)) := by
  apply congrArg (report _ <| send _ ·)
  funext reply
  rcases reply with e | ⟨columns, cells, affected⟩
  · rfl
  · cases cells <;> rfl

theorem allRows_eq (read : Row.Reader α) (q : Query) :
    allRows read q = exchange (queryEvent "query_many" q) q (Reply.all read) := by
  apply congrArg (report _ <| send _ ·)
  funext reply
  cases reply <;> rfl

theorem run_exchange {answer : σ → Statement → Reply × σ} (event : LogEvent) (q : Query)
    (value : Reply → α) (s : σ) : (exchange event q value).run answer s =
      ⟨value (answer s q.statement).1, (answer s q.statement).2, [q.statement], [event]⟩ := rfl

end Dialogue

end PagedQuery
