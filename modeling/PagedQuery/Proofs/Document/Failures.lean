import PagedQuery.Proofs.Document.Columns
import PagedQuery.Proofs.Document.Operation
import PagedQuery.Proofs.Selection.Layout
import PagedQuery.Proofs.Storage.Failures

/-! The failures of the statements of the operations of the store, and that each operation ends in the
first of them or in none. -/

namespace PagedQuery

/-- An error of reading a row: a column is missing or has another type. -/
def StorageError.OfReading : StorageError → Prop
  | columnNotFound _ | columnIndexOutOfBounds .. | columnDecode _ => True
  | _ => False

namespace Row

variable {α β : Type}

/-- Reading fails with errors of reading only. -/
def FailsReading (x : Except StorageError α) : Prop := ∀ e, error? x = some e → e.OfReading

theorem FailsReading.bind {x : Except StorageError α} {f : α → Except StorageError β}
    (h : FailsReading x) (hf : ∀ a, FailsReading (f a)) : FailsReading (x >>= f) := by
  cases x with
  | error e => exact h
  | ok a => exact hf a

theorem failsReading_ok (a : α) : FailsReading (.ok a) := fun _ h => nomatch h

theorem failsReading_named (read : Cell.Reader α) (name : String) (row : Row) :
    FailsReading (named read name row) := by
  intro e he
  unfold named at he
  split at he
  · cases he
    trivial
  · split at he <;> cases he
    trivial

theorem failsReading_single (read : Cell.Reader α) (row : Row) : FailsReading (single read row) := by
  intro e he
  unfold single atIndex at he
  split at he
  · cases he
    trivial
  · split at he <;> cases he
    trivial

end Row

namespace Document

open Row in
theorem failsReading_ofRow (row : Row) : FailsReading (ofRow row) := by
  unfold ofRow
  repeat refine (failsReading_named _ _ row).bind fun _ => ?_
  exact failsReading_ok _

namespace Store

/-- What the result of a query has to hold. -/
inductive Expectation where
  | number | identifier | document | documentIfAny | documents | change

/-- What is wrong with the rows when the first one has to be there and is read. -/
def firstFailure? {α : Type} (read : Row.Reader α) : List Row → Option StorageError
  | [] => some .rowNotFound
  | row :: _ => error? (read row)

/-- What is wrong with a result: a row is missing, or cannot be read, or nothing was changed. -/
def Expectation.failure? (x : Expectation) (result : ResultSet) : Option StorageError :=
  match x with
  | number => firstFailure? (Row.single Cell.bigint) result.rows
  | identifier => firstFailure? (Row.single Cell.uuid) result.rows
  | document => firstFailure? ofRow result.rows
  | documentIfAny => result.rows.head?.bind fun row => error? (ofRow row)
  | documents => result.rows.findSome? fun row => error? (ofRow row)
  | change => if result.affected = 0 then some .rowNotFound else none

/-- What is wrong with a reply. -/
def Expectation.failureOf? (x : Expectation) : Reply → Option StorageError
  | .error e => some e
  | .ok result => x.failure? result

namespace Operation

/-- What a query of the operation asks for. -/
def expects : Operation → String → Expectation
  | list bounds request f, sql =>
    if sql = (listed (request.bounded bounds) f).countQuery.sql then .number else .documents
  | fetch _, _ => .document
  | fetchSame _, _ => .documentIfAny
  | store _, sql => if sql = insertSql then .identifier else .document
  | setStatus .., _ | remove _, _ => .change

/-- The failure that a statement of the operation and the reply to it are, if they are one. Whether
a rollback works does not count. -/
def failure? (op : Operation) : Statement × Reply → Option StorageError
  | (.control .rollback, _) => none
  | (.control _, reply) => error? reply
  | (.query sql _, reply) => (op.expects sql).failureOf? reply

/-- The operation looks for one document. -/
def Reads : Operation → Prop
  | fetch _ | store _ => True
  | _ => False

/-- The operation changes one document. -/
def Changes : Operation → Prop
  | setStatus .. | remove _ => True
  | _ => False

/-- The error that a failure at a statement is. -/
def error (op : Operation) : Statement → StorageError → Error
  | .control _, e => .storage e
  | .query .., e => match op with
    | list .. | fetchSame _ => .storage e
    | fetch _ | store _ | setStatus .. | remove _ => .ofStorage e

/-- The error that an exchange is. -/
def errorOf? (op : Operation) (x : Statement × Reply) : Option Error :=
  (op.failure? x).map (op.error x.1)

end Operation

section Replies

variable {α : Type}

theorem error?_first {x : Expectation} {read : Row.Reader α}
    (hx : ∀ result, x.failure? result = firstFailure? read result.rows) (reply : Reply) :
    error? (Reply.first read reply) = x.failureOf? reply := by
  rcases reply with e | result
  · rfl
  · show error? (match result.rows with
      | [] => .error .rowNotFound
      | row :: _ => read row) = x.failure? result
    rw [hx]
    cases result.rows <;> rfl

theorem error?_first?_ofRow (reply : Reply) :
    error? (Reply.first? ofRow reply) = Expectation.documentIfAny.failureOf? reply := by
  rcases reply with e | result
  · rfl
  · show error? (match result.rows with
      | [] => .ok none
      | row :: _ => (ofRow row).map some) = result.rows.head?.bind fun row => error? (ofRow row)
    cases result.rows with
    | nil => rfl
    | cons row rest =>
      show error? ((ofRow row).map some) = error? (ofRow row)
      cases ofRow row <;> rfl

theorem error?_mapM (read : Row.Reader α) (rows : List Row) :
    error? (rows.mapM read) = rows.findSome? fun row => error? (read row) := by
  induction rows with
  | nil => rfl
  | cons row rest ih =>
    rw [List.mapM_cons, List.findSome?_cons]
    cases read row with
    | error e => rfl
    | ok a =>
      rw [← ih]
      show error? (rest.mapM read >>= fun as => pure (a :: as)) = _
      cases rest.mapM read <;> rfl

theorem error?_all (reply : Reply) :
    error? (Reply.all ofRow reply) = Expectation.documents.failureOf? reply := by
  rcases reply with e | result
  · rfl
  · exact error?_mapM ofRow result.rows

theorem error?_changed (reply : Reply) :
    error? (Reply.changed reply) = Expectation.change.failureOf? reply := by
  rcases reply with e | result
  · rfl
  · show error? (if result.affected = 0 then (.error .rowNotFound : Except StorageError Nat)
        else .ok result.affected) =
      if result.affected = 0 then some StorageError.rowNotFound else none
    split <;> rfl

end Replies

section Operations

open Dialogue

theorem failsBy_query {op : Operation} {α β : Type} {event : LogEvent} {q : Query}
    {value : Reply → Except StorageError α}
    {rest : Except StorageError α → Dialogue (Except Error β)}
    (hvalue : ∀ reply, error? (value reply) = (op.expects q.sql).failureOf? reply)
    (hend : ∀ e, rest (.error e) = done (.error (op.error q.statement e)))
    (hrest : ∀ a, (rest (.ok a)).FailsBy op.errorOf?) :
    (exchange event q value >>= rest).FailsBy op.errorOf? := by
  refine FailsBy.exchange hend (fun reply => ?_) hrest
  rw [hvalue]
  rfl

theorem failsBy_fetch {op : Operation} (hexpects : op.expects fetchSql = .document)
    (herror : ∀ sql args e, op.error (.query sql args) e = .ofStorage e) (id : Uuid) :
    (Store.fetch id).FailsBy op.errorOf? := by
  rw [Store.fetch, oneRow_eq, byIdQuery_everything]
  apply failsBy_query
  · intro reply
    rw [hexpects]
    exact error?_first (fun _ => rfl) reply
  · intro e
    rw [Query.statement, herror]
    rfl
  · exact fun d => ⟨d, rfl⟩

theorem failsBy_changeOne {op : Operation} {q : Query} (hexpects : op.expects q.sql = .change)
    (herror : ∀ sql args e, op.error (.query sql args) e = .ofStorage e) :
    (changeOne q).FailsBy op.errorOf? := by
  rw [changeOne, changeRows_eq]
  apply failsBy_query
  · intro reply
    rw [hexpects]
    exact error?_changed reply
  · intro e
    rw [Query.statement, herror]
    rfl
  · exact fun n => ⟨(), rfl⟩

theorem failsBy_fetchSame? (checksum : String) :
    (Store.fetchSame? checksum).FailsBy (Operation.fetchSame checksum).errorOf? := by
  rw [Store.fetchSame?, firstRow_eq]
  apply failsBy_query
  · exact error?_first?_ofRow
  · exact fun e => rfl
  · exact fun d => ⟨d, rfl⟩

theorem append_ne_append {front other : String} (hlength : front.length = other.length)
    (hne : front ≠ other) (s t : String) : front ++ s ≠ other ++ t := by
  intro h
  have hlists := congrArg String.toList h
  rw [String.toList_append, String.toList_append] at hlists
  exact hne (String.toList_inj.mp (List.append_inj_left hlists hlength))

theorem fetchSql_ne_insertSql : fetchSql ≠ insertSql := by
  have hinsert : insertSql = "INSERT " ++ ("INTO public.documents (title, status, tag, " ++
    "content_type, checksum, category_id) VALUES ($1, $2, $3, $4, $5, $6) RETURNING id") := by decide
  rw [hinsert, fetchSql]
  simp only [String.append_assoc]
  exact append_ne_append (by decide) (by decide) _ _

theorem pageQuery_ne_countQuery {s : Selection} (hs : s.projection = projection)
    (number size : Int64) : (s.pageQuery number size).sql ≠ s.countQuery.sql := by
  obtain ⟨rest, hselect⟩ := selectList_projection
  have hpage : (s.pageQuery number size).sql =
      s.rowsQuery.sql ++ (PageWindow.ofPage number size).sql := rfl
  have hcount : "SELECT COUNT(*) FROM " = "SELECT COUN" ++ "T(*) FROM " := by decide
  have hfront : "SELECT " ++ "d.id" = "SELECT d.id" := by decide
  -- The first eleven characters tell them apart.
  rw [hpage, Selection.rowsQuery_sql, Selection.countQuery_sql, hs, hselect, hcount,
    ← String.append_assoc, hfront]
  simp only [String.append_assoc]
  exact append_ne_append (by decide) (by decide) _ _

theorem failsBy_store (d : Draft) : (Store.store d).FailsBy (Operation.store d).errorOf? := by
  have hinsert : (Operation.store d).expects insertSql = .identifier := by
    rw [Operation.expects, if_pos rfl]
  have hfetch : (Operation.store d).expects fetchSql = .document := by
    rw [Operation.expects, if_neg fetchSql_ne_insertSql]
  have hbody : (Store.insert d).FailsBy (Operation.store d).errorOf? := by
    rw [Store.insert, oneRow_eq]
    apply failsBy_query
    · intro reply
      rw [hinsert]
      exact error?_first (fun _ => rfl) reply
    · exact fun e => rfl
    · exact failsBy_fetch hfetch fun _ _ _ => rfl
  apply hbody.transaction
  rintro (_ | _ | _) (e | ack) <;> rfl

theorem failsBy_pageOf {op : Operation} {r : PageRequest} {s : Selection}
    (hexpects : op.expects (s.pageQuery r.number r.size).sql = .documents)
    (herror : ∀ sql args e, op.error (.query sql args) e = .storage e) (total : Int64) :
    (pageOf r s total).FailsBy op.errorOf? := by
  unfold pageOf
  split
  · exact ⟨_, rfl⟩
  · rw [fetchPage, allRows_eq]
    apply FailsBy.reporting
    apply failsBy_query
    · intro reply
      have hsql : op.expects (s.query (.page r.number r.size)).sql = .documents := hexpects
      rw [hsql, error?_all]
    · intro e
      rw [Query.statement, herror]
      rfl
    · exact fun rows => ⟨_, rfl⟩

theorem failsBy_list (bounds : PageBounds) (request : PageRequest) (f : Filter) :
    (Store.list bounds request f).FailsBy (Operation.list bounds request f).errorOf? := by
  have hcount : (Operation.list bounds request f).expects
      (listed (request.bounded bounds) f).countQuery.sql = .number := by
    rw [Operation.expects, if_pos rfl]
  have hpage (number size : Int64) : (Operation.list bounds request f).expects
      ((listed (request.bounded bounds) f).pageQuery number size).sql = .documents := by
    rw [Operation.expects, if_neg]
    exact pageQuery_ne_countQuery (Selection.projection_steps everything _) number size
  rw [Store.list, countRows_eq]
  apply failsBy_query
  · intro reply
    rw [hcount]
    exact error?_first (fun _ => rfl) reply
  · exact fun e => rfl
  · exact failsBy_pageOf (hpage _ _) fun _ _ _ => rfl

/-- The errors of an operation are those of its exchanges. -/
theorem Operation.failsBy_dialogue (op : Operation) : op.dialogue.FailsBy op.errorOf? := by
  cases op with
  | list bounds request f => exact (failsBy_list bounds request f).map _
  | fetch id => exact (failsBy_fetch rfl (fun _ _ _ => rfl) id).map _
  | fetchSame checksum => exact (failsBy_fetchSame? checksum).map _
  | store d => exact (failsBy_store d).map _
  | setStatus id status => exact (failsBy_changeOne rfl fun _ _ _ => rfl).map _
  | remove id => exact (failsBy_changeOne rfl fun _ _ _ => rfl).map _

end Operations

end Store

end Document

end PagedQuery
