import PagedQuery.Proofs.Document.Failures

/-! The errors of the operations of the store: the operations on one document have names for a
missing row and for a duplicate, and every other failure comes back as the error that it is. -/

namespace PagedQuery

variable {σ : Type}

theorem StorageError.isDuplicateKey_iff {e : StorageError} :
    e.isDuplicateKey = true ↔ ∃ message, e = .database (some "23505") message := by
  cases e <;> simp [isDuplicateKey, duplicateKey]

/-- The reply holds no row; the error that a row is missing says so too. -/
def Reply.HasNoRow : Reply → Prop
  | .error e => e = .rowNotFound
  | .ok result => result.rows = []

/-- The reply says that no row was changed; the error that a row is missing says so too. -/
def Reply.ChangedNothing : Reply → Prop
  | .error e => e = .rowNotFound
  | .ok result => result.affected = 0

namespace Document

namespace Error

variable {e other : StorageError}

theorem ofStorage_eq_notFound_iff : ofStorage e = .notFound ↔ e = .rowNotFound := by
  unfold ofStorage StorageError.classify
  split
  · simp
  · split <;> simp_all

theorem ofStorage_eq_duplicate_iff : ofStorage e = .duplicate ↔ e.isDuplicateKey = true := by
  unfold ofStorage StorageError.classify
  split
  · simp [StorageError.isDuplicateKey]
  · split <;> simp_all

theorem ofStorage_eq_storage_iff : ofStorage e = .storage other ↔
    e = other ∧ ¬(e = .rowNotFound ∨ e.isDuplicateKey = true) := by
  unfold ofStorage StorageError.classify
  split
  · simp
  · split <;> simp_all

end Error

namespace Store

/-- What is wrong with a result is never the server's word. -/
theorem Expectation.failure?_cases {x : Expectation} {result : ResultSet} {e : StorageError}
    (h : x.failure? result = some e) : e = .rowNotFound ∨ e.OfReading := by
  have hfirst {α : Type} {read : Row.Reader α} (hread : ∀ row, Row.FailsReading (read row))
      {rows : List Row} (h : firstFailure? read rows = some e) : e = .rowNotFound ∨ e.OfReading := by
    cases rows with
    | nil => exact .inl (Option.some.inj h).symm
    | cons row rest => exact .inr (hread row e h)
  cases x with
  | number => exact hfirst (Row.failsReading_single _) h
  | identifier => exact hfirst (Row.failsReading_single _) h
  | document => exact hfirst failsReading_ofRow h
  | documentIfAny =>
    obtain ⟨row, -, hrow⟩ := Option.bind_eq_some_iff.mp h
    exact .inr (failsReading_ofRow row e hrow)
  | documents =>
    obtain ⟨row, -, hrow⟩ := List.exists_of_findSome?_eq_some h
    exact .inr (failsReading_ofRow row e hrow)
  | change =>
    have hnone : (if result.affected = 0 then some StorageError.rowNotFound else none) = some e := h
    split at hnone <;> cases hnone
    exact .inl rfl

theorem Expectation.failureOf?_eq_database_iff {x : Expectation} {reply : Reply}
    {code : Option String} {message : String} :
    x.failureOf? reply = some (.database code message) ↔
      reply = .error (.database code message) := by
  cases reply with
  | error e => simp [failureOf?]
  | ok result =>
    have hresult : x.failure? result ≠ some (.database code message) := fun h => by
      simpa [StorageError.OfReading] using failure?_cases h
    simpa [failureOf?] using hresult

theorem firstFailure?_eq_rowNotFound_iff {α : Type} {read : Row.Reader α}
    (hread : ∀ row, Row.FailsReading (read row)) {rows : List Row} :
    firstFailure? read rows = some .rowNotFound ↔ rows = [] := by
  cases rows with
  | nil => simp [firstFailure?]
  | cons row rest =>
    have hrow : error? (read row) ≠ some .rowNotFound := fun h => hread row _ h
    simpa [firstFailure?] using hrow

namespace Operation

variable {op : Operation} {x : Statement × Reply}

/-- In an operation that looks for a document every query has to return a row. -/
theorem Reads.failureOf?_eq_rowNotFound_iff (h : op.Reads) {sql : String} {reply : Reply} :
    (op.expects sql).failureOf? reply = some .rowNotFound ↔ reply.HasNoRow := by
  cases reply with
  | error e => simp [Expectation.failureOf?, Reply.HasNoRow]
  | ok result =>
    cases op with
    | fetch id => exact firstFailure?_eq_rowNotFound_iff failsReading_ofRow
    | store d =>
      by_cases hsql : sql = insertSql
      · rw [expects, if_pos hsql]
        exact firstFailure?_eq_rowNotFound_iff (Row.failsReading_single _)
      · rw [expects, if_neg hsql]
        exact firstFailure?_eq_rowNotFound_iff failsReading_ofRow
    | list | fetchSame | setStatus | remove => exact h.elim

theorem Changes.failureOf?_eq_rowNotFound_iff (h : op.Changes) {sql : String} {reply : Reply} :
    (op.expects sql).failureOf? reply = some .rowNotFound ↔ reply.ChangedNothing := by
  have hexpects : op.expects sql = .change := by
    cases op with
    | setStatus | remove => rfl
    | list | fetch | fetchSame | store => exact h.elim
  rw [hexpects]
  cases reply with
  | error e => simp [Expectation.failureOf?, Reply.ChangedNothing]
  | ok result => simp [Expectation.failureOf?, Expectation.failure?, Reply.ChangedNothing]

/-- The operation has a name for the error at the statement: it is on one document, the statement is
its own, and a row is missing or there already. -/
def Names (op : Operation) (statement : Statement) (e : StorageError) : Prop :=
  (op.Reads ∨ op.Changes) ∧ (∃ sql args, statement = .query sql args) ∧
    (e = .rowNotFound ∨ e.isDuplicateKey = true)

theorem error_query_of_named (h : op.Reads ∨ op.Changes) (sql : String) (args : List Arg)
    (e : StorageError) : op.error (.query sql args) e = .ofStorage e := by
  cases op with
  | fetch | store | setStatus | remove => rfl
  | list | fetchSame => rcases h with h | h <;> exact h.elim

theorem error_query_of_not_named (h : ¬(op.Reads ∨ op.Changes)) (sql : String) (args : List Arg)
    (e : StorageError) : op.error (.query sql args) e = .storage e := by
  cases op with
  | list | fetchSame => rfl
  | fetch | store => exact (h (.inl trivial)).elim
  | setStatus | remove => exact (h (.inr trivial)).elim

theorem error_eq_notFound_iff {statement : Statement} {e : StorageError} :
    op.error statement e = .notFound ↔
      (op.Reads ∨ op.Changes) ∧ (∃ sql args, statement = .query sql args) ∧ e = .rowNotFound := by
  cases statement with
  | control c => simp [error]
  | query sql args =>
    by_cases h : op.Reads ∨ op.Changes
    · simp [error_query_of_named h, Error.ofStorage_eq_notFound_iff, h]
    · simp [error_query_of_not_named h, h]

theorem error_eq_duplicate_iff {statement : Statement} {e : StorageError} :
    op.error statement e = .duplicate ↔ (op.Reads ∨ op.Changes) ∧
      (∃ sql args, statement = .query sql args) ∧ e.isDuplicateKey = true := by
  cases statement with
  | control c => simp [error]
  | query sql args =>
    by_cases h : op.Reads ∨ op.Changes
    · simp [error_query_of_named h, Error.ofStorage_eq_duplicate_iff, h]
    · simp [error_query_of_not_named h, h]

theorem error_eq_storage_iff {statement : Statement} {e other : StorageError} :
    op.error statement e = .storage other ↔ e = other ∧ ¬op.Names statement e := by
  cases statement with
  | control c => simp [error, Names]
  | query sql args =>
    by_cases h : op.Reads ∨ op.Changes
    · simp [error_query_of_named h, Error.ofStorage_eq_storage_iff, Names, h]
    · simp [error_query_of_not_named h, Names, h]

theorem errorOf?_eq_duplicate_iff : op.errorOf? x = some .duplicate ↔ (op.Reads ∨ op.Changes) ∧
    ∃ sql args message, x = (.query sql args, .error (.database (some "23505") message)) := by
  obtain ⟨statement, reply⟩ := x
  rw [errorOf?, Option.map_eq_some_iff]
  constructor
  · rintro ⟨e, hfailure, herror⟩
    obtain ⟨hnamed, ⟨sql, args, rfl⟩, hkey⟩ := error_eq_duplicate_iff.mp herror
    obtain ⟨message, rfl⟩ := StorageError.isDuplicateKey_iff.mp hkey
    obtain rfl := Expectation.failureOf?_eq_database_iff.mp hfailure
    exact ⟨hnamed, sql, args, message, rfl⟩
  · rintro ⟨hnamed, sql, args, message, heq⟩
    cases heq
    exact ⟨_, rfl, error_eq_duplicate_iff.mpr ⟨hnamed, ⟨sql, args, rfl⟩, rfl⟩⟩

theorem errorOf?_eq_notFound_iff : op.errorOf? x = some .notFound ↔
    ∃ sql args reply, x = (.query sql args, reply) ∧
      (op.Reads ∧ reply.HasNoRow ∨ op.Changes ∧ reply.ChangedNothing) := by
  obtain ⟨statement, reply⟩ := x
  rw [errorOf?, Option.map_eq_some_iff]
  constructor
  · rintro ⟨e, hfailure, herror⟩
    obtain ⟨hnamed, ⟨sql, args, rfl⟩, rfl⟩ := error_eq_notFound_iff.mp herror
    refine ⟨sql, args, reply, rfl, hnamed.imp ?_ ?_⟩
    · exact fun h => ⟨h, h.failureOf?_eq_rowNotFound_iff.mp hfailure⟩
    · exact fun h => ⟨h, h.failureOf?_eq_rowNotFound_iff.mp hfailure⟩
  · rintro ⟨sql, args, reply, heq, hreply⟩
    cases heq
    have hnamed : op.Reads ∨ op.Changes := hreply.imp And.left And.left
    refine ⟨.rowNotFound, ?_, error_eq_notFound_iff.mpr ⟨hnamed, ⟨sql, args, rfl⟩, rfl⟩⟩
    rcases hreply with ⟨h, hrow⟩ | ⟨h, hrow⟩
    · exact h.failureOf?_eq_rowNotFound_iff.mpr hrow
    · exact h.failureOf?_eq_rowNotFound_iff.mpr hrow

theorem errorOf?_eq_storage_iff {e : StorageError} : op.errorOf? x = some (.storage e) ↔
    op.failure? x = some e ∧ ¬op.Names x.1 e := by
  rw [errorOf?, Option.map_eq_some_iff]
  constructor
  · rintro ⟨first, hfailure, herror⟩
    obtain ⟨rfl, hnames⟩ := error_eq_storage_iff.mp herror
    exact ⟨hfailure, hnames⟩
  · rintro ⟨hfailure, hnames⟩
    exact ⟨e, hfailure, error_eq_storage_iff.mpr ⟨rfl, hnames⟩⟩

end Operation

section Successes

open Dialogue

variable {α : Type} {answer : σ → Statement → Reply × σ}

theorem exists_mem_exchange_iff (event : LogEvent) (q : Query) {value : Reply → α} (s : σ)
    (P : ResultSet → Prop) :
    (∃ sql args result, (.query sql args, .ok result) ∈ (exchange event q value).exchanges answer s ∧
      P result) ↔ ∃ result, (answer s q.statement).1 = .ok result ∧ P result := by
  rw [exchanges_exchange]
  constructor
  · rintro ⟨sql, args, result, hmem, hresult⟩
    exact ⟨result, (congrArg Prod.snd (List.mem_singleton.mp hmem)).symm, hresult⟩
  · rintro ⟨result, hreply, hresult⟩
    exact ⟨_, _, result, List.mem_singleton.mpr (Prod.ext rfl hreply.symm), hresult⟩

theorem fetchSame_found_none_iff (checksum : String) (s : σ) :
    ((Operation.fetchSame checksum).dialogue.run answer s).value = .ok (.found none) ↔
      ∃ sql args result, (.query sql args, .ok result) ∈
        (Operation.fetchSame checksum).dialogue.exchanges answer s ∧ result.rows = [] := by
  let q := (everything.equalTo "checksum" (some (.text checksum))).firstQuery
  have hdialogue : (Operation.fetchSame checksum).dialogue =
      exchange (queryEvent "query_optional" q) q fun reply =>
        ((Reply.first? ofRow reply).mapError .storage).map .found := by
    rw [Operation.dialogue, Operation.outcome, fetchSame?, firstRow_eq]
    rfl
  rw [hdialogue, exists_mem_exchange_iff, run_exchange]
  cases (answer s q.statement).1 with
  | error e => simp [Reply.first?, Except.bind, Except.mapError, Except.map]
  | ok result =>
    cases hrows : result.rows with
    | nil => simp [Reply.first?, Except.bind, Except.mapError, Except.map, hrows]
    | cons row rest =>
      cases hrow : ofRow row <;>
        simp [Reply.first?, Except.bind, Except.mapError, Except.map, hrows, hrow]

theorem Operation.Changes.changed_iff {op : Operation} (h : op.Changes) (s : σ) :
    (op.dialogue.run answer s).value = .ok .changed ↔
      ∃ sql args result, (.query sql args, .ok result) ∈ op.dialogue.exchanges answer s ∧
        1 ≤ result.affected := by
  obtain ⟨q, hdialogue⟩ : ∃ q, op.dialogue = exchange (queryEvent "exec_expect_one" q) q fun reply =>
      (((Reply.changed reply).map fun _ => ()).mapError .ofStorage).map fun _ => .changed := by
    cases op with
    | setStatus id status =>
      refine ⟨⟨setStatusSql, [.value (.text status), .value (.uuid id)]⟩, ?_⟩
      rw [Operation.dialogue, Operation.outcome, Store.setStatus, changeOne, changeRows_eq]
      rfl
    | remove id =>
      refine ⟨⟨removeSql, [.value (.uuid id)]⟩, ?_⟩
      rw [Operation.dialogue, Operation.outcome, Store.remove, changeOne, changeRows_eq]
      rfl
    | list | fetch | fetchSame | store => exact h.elim
  rw [hdialogue, exists_mem_exchange_iff, run_exchange]
  cases (answer s q.statement).1 with
  | error e => simp [Reply.changed, Except.bind, Except.mapError, Except.map]
  | ok result =>
    by_cases hnone : result.affected = 0
    · simp [Reply.changed, Except.bind, Except.mapError, Except.map, hnone]
    · simp [Reply.changed, Except.bind, Except.mapError, Except.map, hnone, Nat.one_le_iff_ne_zero]

end Successes

/-- Through a closed pool every operation fails, and sends nothing. -/
theorem Operation.run_closed (op : Operation) {p : Pool} (hclosed : p.isClosed = true)
    (answer : σ → Statement → Reply × σ) (s : σ) :
    (p.run answer op.dialogue s).value = .error (.storage .poolClosed) ∧
      (p.run answer op.dialogue s).sent = [] := by
  rw [Pool.sent_run, if_pos hclosed, Pool.run, if_pos hclosed]
  refine ⟨?_, rfl⟩
  cases op <;> rfl

/-- Errors keep their meaning, whatever the operation, its input and the replies. A duplicate is
reported exactly when an operation on one document had a query of its own refused with the code of a
unique key; a missing document exactly when a query of a fetch or of a store returned no row, or that
of a change or of a removal touched none. Every other failure comes back as it is: a delimiter that
was refused, a query that failed, a row that is missing or cannot be read. A checksum is found
nowhere exactly when its query returned no row, and a change succeeds exactly when it touched a row.
A closed pool fails before anything is sent. -/
theorem errors_keep_meaning (op : Operation) (p : Pool) (answer : σ → Statement → Reply × σ)
    (s : σ) :
    let run := p.run answer op.dialogue s
    let exchanged := op.dialogue.exchanges (p.replying answer) s
    (run.value = .error .duplicate ↔ (op.Reads ∨ op.Changes) ∧ ∃ sql args message,
      (.query sql args, .error (.database (some "23505") message)) ∈ exchanged) ∧
    (run.value = .error .notFound ↔ ∃ sql args reply, (.query sql args, reply) ∈ exchanged ∧
      (op.Reads ∧ reply.HasNoRow ∨ op.Changes ∧ reply.ChangedNothing)) ∧
    (∀ e, run.value = .error (.storage e) ↔
      ∃ x ∈ exchanged, op.failure? x = some e ∧ ¬op.Names x.1 e) ∧
    (∀ checksum, op = .fetchSame checksum → (run.value = .ok (.found none) ↔
      ∃ sql args result, (.query sql args, .ok result) ∈ exchanged ∧ result.rows = [])) ∧
    (op.Changes → (run.value = .ok .changed ↔
      ∃ sql args result, (.query sql args, .ok result) ∈ exchanged ∧ 1 ≤ result.affected)) ∧
    (p.isClosed = true → run.value = .error (.storage .poolClosed) ∧ run.sent = []) ∧
    (p.isClosed = false → run.sent = exchanged.map Prod.fst) := by
  intro run exchanged
  have hvalue : run.value = (op.dialogue.run (p.replying answer) s).value := p.value_run answer _ s
  have herror : ∀ failure, run.value = .error failure ↔
      ∃ x ∈ exchanged, op.errorOf? x = some failure := by
    rw [hvalue]
    exact op.failsBy_dialogue.value_eq_error_iff _ s
  refine ⟨?_, ?_, ?_, ?_, ?_, ?_, ?_⟩
  · rw [herror]
    constructor
    · rintro ⟨x, hx, hduplicate⟩
      obtain ⟨hnamed, sql, args, message, rfl⟩ := Operation.errorOf?_eq_duplicate_iff.mp hduplicate
      exact ⟨hnamed, sql, args, message, hx⟩
    · rintro ⟨hnamed, sql, args, message, hx⟩
      exact ⟨_, hx, Operation.errorOf?_eq_duplicate_iff.mpr ⟨hnamed, sql, args, message, rfl⟩⟩
  · rw [herror]
    constructor
    · rintro ⟨x, hx, hmissing⟩
      obtain ⟨sql, args, reply, rfl, hreply⟩ := Operation.errorOf?_eq_notFound_iff.mp hmissing
      exact ⟨sql, args, reply, hx, hreply⟩
    · rintro ⟨sql, args, reply, hx, hreply⟩
      exact ⟨_, hx, Operation.errorOf?_eq_notFound_iff.mpr ⟨sql, args, reply, rfl, hreply⟩⟩
  · intro e
    simp only [herror, Operation.errorOf?_eq_storage_iff]
  · rintro checksum rfl
    rw [hvalue]
    exact fetchSame_found_none_iff checksum s
  · intro h
    rw [hvalue]
    exact h.changed_iff s
  · exact fun hclosed => op.run_closed hclosed answer s
  · intro hopen
    rw [Pool.sent_run, if_neg (by simp [hopen])]

end Store

end Document

end PagedQuery
