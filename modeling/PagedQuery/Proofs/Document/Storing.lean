import PagedQuery.Proofs.Document.Columns
import PagedQuery.Proofs.Storage.Transaction

/-! Storing a document: the statements that are sent, by the replies to them, and that nothing is
committed unless the document was inserted and read back. -/

namespace PagedQuery.Document

/-- The columns of a draft as they are inserted: the name of each, its type, and its value, which
the optional ones may lack. -/
def Draft.columns (d : Draft) : List (String × ArgKind × Option Value) :=
  [("title", .text, some (.text d.title)), ("status", .text, some (.text d.status)),
    ("tag", .text, d.tag.map .text), ("content_type", .text, some (.text d.contentType)),
    ("checksum", .text, some (.text d.checksum)), ("category_id", .uuid, d.categoryId.map .uuid)]

namespace Store

/-- The statement that inserts a draft. -/
def insertion (d : Draft) : Statement := Query.statement ⟨insertSql, d.args⟩

/-- The statement that fetches a document. -/
def fetching (id : Uuid) : Statement := .query fetchSql [.value (.uuid id)]

/-- The insertion names the columns of the draft, numbers a placeholder for each and binds their
values in the same order, those that are missing as nulls of the type of the column. -/
theorem insertion_eq (d : Draft) : insertion d =
    .query ("INSERT INTO public.documents (" ++ String.intercalate ", " (d.columns.map (·.1)) ++
      ") VALUES (" ++ String.intercalate ", " ((List.range' 1 d.columns.length).map
        Clause.placeholder) ++ ") RETURNING id")
      (d.columns.map fun c => .ofOption c.2.1 c.2.2) := by
  have hsql : insertSql = "INSERT INTO public.documents (" ++
      String.intercalate ", " (d.columns.map (·.1)) ++ ") VALUES (" ++
        String.intercalate ", " ((List.range' 1 d.columns.length).map Clause.placeholder) ++
          ") RETURNING id" := by
    simp only [Draft.columns, List.map_cons, List.map_nil, List.length_cons, List.length_nil]
    decide
  have hargs : d.args.map Arg.bound = d.columns.map fun c => .ofOption c.2.1 c.2.2 := by
    obtain ⟨title, status, tag, contentType, checksum, categoryId⟩ := d
    cases tag <;> cases categoryId <;> rfl
  rw [insertion, Query.statement, hargs, hsql]

theorem kinds_insertion (d : Draft) : (d.columns.map fun c => (Arg.ofOption c.2.1 c.2.2).kind) =
    [.text, .text, .text, .text, .text, .uuid] := by
  obtain ⟨title, status, tag, contentType, checksum, categoryId⟩ := d
  cases tag <;> cases categoryId <;> rfl

theorem onlyQueries_fetch (id : Uuid) : (fetch id).OnlyQueries := by
  rw [fetch, Dialogue.oneRow_eq]
  exact (Dialogue.onlyQueries_exchange _ _ _).bind fun _ => trivial

theorem onlyQueries_insert (d : Draft) : (insert d).OnlyQueries := by
  rw [insert, Dialogue.oneRow_eq]
  apply (Dialogue.onlyQueries_exchange _ _ _).bind
  rintro (e | id)
  · trivial
  · exact onlyQueries_fetch id

section Runs

variable {σ : Type} {answer : σ → Statement → Reply × σ}

theorem run_fetch (id : Uuid) (s : σ) :
    let found := answer s (fetching id)
    (fetch id).run answer s = ⟨(Reply.first ofRow found.1).mapError .ofStorage, found.2,
      [fetching id], [Dialogue.queryEvent "query_one" ⟨fetchSql, [.value (.uuid id)]⟩]⟩ := by
  rw [fetch, Dialogue.oneRow_eq, Dialogue.run_bind, Dialogue.run_exchange, byIdQuery_everything]
  rfl

/-- A draft that is not inserted is not looked for. -/
theorem run_insert_of_not_inserted {d : Draft} {s : σ} {e : StorageError}
    (h : Reply.first (Row.single Cell.uuid) (answer s (insertion d)).1 = .error e) :
    (insert d).run answer s = ⟨.error (.ofStorage e), (answer s (insertion d)).2, [insertion d],
      [Dialogue.queryEvent "query_one" ⟨insertSql, d.args⟩]⟩ := by
  rw [insertion] at h
  rw [insert, Dialogue.oneRow_eq, Dialogue.run_bind, Dialogue.run_exchange]
  simp only [h]
  rfl

/-- A document that is inserted is fetched by the identifier that it was given. -/
theorem run_insert_of_inserted {d : Draft} {s : σ} {id : Uuid}
    (h : Reply.first (Row.single Cell.uuid) (answer s (insertion d)).1 = .ok id) :
    let found := answer (answer s (insertion d)).2 (fetching id)
    (insert d).run answer s = ⟨(Reply.first ofRow found.1).mapError .ofStorage, found.2,
      [insertion d, fetching id], [Dialogue.queryEvent "query_one" ⟨insertSql, d.args⟩,
        Dialogue.queryEvent "query_one" ⟨fetchSql, [.value (.uuid id)]⟩]⟩ := by
  rw [insertion] at h
  rw [insert, Dialogue.oneRow_eq, Dialogue.run_bind, Dialogue.run_exchange]
  simp only [h, run_fetch]
  rfl

theorem run_insert_of_not_found {d : Draft} {s : σ} {id : Uuid} {e : StorageError}
    (h : Reply.first (Row.single Cell.uuid) (answer s (insertion d)).1 = .ok id)
    (h' : Reply.first ofRow (answer (answer s (insertion d)).2 (fetching id)).1 = .error e) :
    (insert d).run answer s = ⟨.error (.ofStorage e),
      (answer (answer s (insertion d)).2 (fetching id)).2, [insertion d, fetching id],
      ((insert d).run answer s).events⟩ := by
  rw [run_insert_of_inserted h, h']
  rfl

theorem run_insert_of_found {d : Draft} {s : σ} {id : Uuid} {document : Document}
    (h : Reply.first (Row.single Cell.uuid) (answer s (insertion d)).1 = .ok id)
    (h' : Reply.first ofRow (answer (answer s (insertion d)).2 (fetching id)).1 = .ok document) :
    (insert d).run answer s = ⟨.ok document,
      (answer (answer s (insertion d)).2 (fetching id)).2, [insertion d, fetching id],
      ((insert d).run answer s).events⟩ := by
  rw [run_insert_of_inserted h, h']
  rfl

/-- Inserting succeeds when both statements are answered with what they ask for. -/
theorem value_insert_eq_ok_iff {d : Draft} {s : σ} {document : Document} :
    ((insert d).run answer s).value = .ok document ↔ ∃ id,
      Reply.first (Row.single Cell.uuid) (answer s (insertion d)).1 = .ok id ∧
        Reply.first ofRow (answer (answer s (insertion d)).2 (fetching id)).1 = .ok document := by
  cases hid : Reply.first (Row.single Cell.uuid) (answer s (insertion d)).1 with
  | error e =>
    rw [run_insert_of_not_inserted hid]
    simp
  | ok id =>
    cases hfound : Reply.first ofRow (answer (answer s (insertion d)).2 (fetching id)).1 with
    | error e =>
      rw [run_insert_of_not_found hid hfound]
      simp [hfound]
    | ok found =>
      rw [run_insert_of_found hid hfound]
      simp [hfound]

end Runs

/-- Whatever the draft and the server. A document is the outcome exactly when the server begins,
inserts the draft and returns its identifier, returns the document with that identifier, and
commits. The insertion binds the six values of the draft in the order of its columns, with the same
types whether or not they are there, and the only argument of the second statement is the
identifier. The second statement is sent only after an insertion that was answered with an
identifier; a COMMIT is sent only after both, and without them a ROLLBACK follows the last one. -/
theorem store_all_or_nothing (d : Draft) {σ : Type} (answer : σ → Statement → Reply × σ) (s : σ) :
    let run := (store d).run answer s
    let begun := answer s (.control .begin)
    let inserted := answer begun.2 (insertion d)
    let id? := Reply.first (Row.single Cell.uuid) inserted.1
    let found := fun id => answer inserted.2 (fetching id)
    let document? := fun id => Reply.first ofRow (found id).1
    (∀ document, run.value = .ok document ↔ (∃ ack, begun.1 = .ok ack) ∧ ∃ id, id? = .ok id ∧
      document? id = .ok document ∧ ∃ ack, (answer (found id).2 (.control .commit)).1 = .ok ack) ∧
    insertion d =
      .query ("INSERT INTO public.documents (" ++ String.intercalate ", " (d.columns.map (·.1)) ++
        ") VALUES (" ++ String.intercalate ", " ((List.range' 1 d.columns.length).map
          Clause.placeholder) ++ ") RETURNING id")
        (d.columns.map fun c => .ofOption c.2.1 c.2.2) ∧
    (d.columns.map fun c => (Arg.ofOption c.2.1 c.2.2).kind) =
      [.text, .text, .text, .text, .text, .uuid] ∧
    (∀ id, fetching id = .query fetchSql [.value (.uuid id)]) ∧
    (.control .commit ∈ run.sent ↔ (∃ ack, begun.1 = .ok ack) ∧
      ∃ id document, id? = .ok id ∧ document? id = .ok document) ∧
    (∀ e, begun.1 = .error e → run.sent = [.control .begin]) ∧
    (∀ ack e, begun.1 = .ok ack → id? = .error e →
      run.sent = [.control .begin, insertion d, .control .rollback] ++
        Dialogue.afterEnd (answer inserted.2 (.control .rollback)).1) ∧
    (∀ ack id e, begun.1 = .ok ack → id? = .ok id → document? id = .error e →
      run.sent = [.control .begin, insertion d, fetching id, .control .rollback] ++
        Dialogue.afterEnd (answer (found id).2 (.control .rollback)).1) ∧
    (∀ ack id document, begun.1 = .ok ack → id? = .ok id → document? id = .ok document →
      run.sent = [.control .begin, insertion d, fetching id, .control .commit] ++
        Dialogue.afterEnd (answer (found id).2 (.control .commit)).1) := by
  intro run begun inserted id? found document?
  refine ⟨fun document => ?_, insertion_eq d, kinds_insertion d, fun _ => rfl, ?_, ?_, ?_, ?_, ?_⟩
  · apply (Dialogue.value_transaction_eq_ok_iff Error.storage (insert d) answer s document).trans
    constructor
    · rintro ⟨hbegin, hinsert, hcommit⟩
      obtain ⟨id, hid, hfound⟩ := value_insert_eq_ok_iff.mp hinsert
      rw [run_insert_of_found hid hfound] at hcommit
      exact ⟨hbegin, id, hid, hfound, hcommit⟩
    · rintro ⟨hbegin, id, hid, hfound, hcommit⟩
      refine ⟨hbegin, value_insert_eq_ok_iff.mpr ⟨id, hid, hfound⟩, ?_⟩
      rw [run_insert_of_found hid hfound]
      exact hcommit
  · apply (Dialogue.commit_mem_sent_iff Error.storage (onlyQueries_insert d) answer s).trans
    apply and_congr_right
    rintro -
    constructor
    · rintro ⟨document, hinsert⟩
      obtain ⟨id, hid, hfound⟩ := value_insert_eq_ok_iff.mp hinsert
      exact ⟨id, document, hid, hfound⟩
    · rintro ⟨id, document, hid, hfound⟩
      exact ⟨document, value_insert_eq_ok_iff.mpr ⟨id, hid, hfound⟩⟩
  · intro e hbegin
    exact congrArg (·.sent) (Dialogue.run_transaction_of_refused Error.storage (insert d) hbegin)
  · intro ack e hbegin hid
    have hrun := run_insert_of_not_inserted hid
    exact (Dialogue.run_transaction_of_error Error.storage (insert d) hbegin hrun).1
  · intro ack id e hbegin hid hfound
    have hrun := run_insert_of_not_found hid hfound
    exact (Dialogue.run_transaction_of_error Error.storage (insert d) hbegin hrun).1
  · intro ack id document hbegin hid hfound
    have hrun := run_insert_of_found hid hfound
    exact (Dialogue.run_transaction_of_ok Error.storage (insert d) hbegin hrun).1

/-- A draft without tag and category, and a server that stores it; and one that has no row for the
identifier that it gave. -/
theorem store_all_or_nothing_untagged :
    let d : Draft := ⟨"Title", "draft", none, "text/plain", "c0ffee", none⟩
    let id : Uuid := ⟨7⟩
    let document : Document :=
      ⟨id, "Title", "draft", none, "text/plain", "c0ffee", none, none, ⟨0, 0⟩, ⟨0, 0⟩⟩
    let given : Reply := .ok (.ofRows ["id"] [[some (.uuid id)]])
    let row : Reply := .ok (.ofRows ["id", "title", "status", "tag", "content_type", "checksum",
      "category_id", "category_name", "created_at", "updated_at"] [[some (.uuid id),
        some (.text "Title"), some (.text "draft"), none, some (.text "text/plain"),
        some (.text "c0ffee"), none, none, some (.timestamp ⟨0, 0⟩), some (.timestamp ⟨0, 0⟩)]])
    let stored := (store d).run Script.answer ⟨[given, row], []⟩
    let lost := (store d).run Script.answer ⟨[given], []⟩
    stored.value = .ok document ∧
      stored.sent = [.control .begin, insertion d, fetching id, .control .commit] ∧
      lost.sent = [.control .begin, insertion d, fetching id, .control .rollback] := by
  intro d id document given row stored lost
  obtain ⟨hvalue, -, -, -, -, -, -, -, hcommitted⟩ :=
    store_all_or_nothing d Script.answer ⟨[given, row], []⟩
  obtain ⟨-, -, -, -, -, -, -, hundone, -⟩ := store_all_or_nothing d Script.answer ⟨[given], []⟩
  have hstored : stored.value = .ok document :=
    (hvalue document).mpr ⟨⟨.touched 0, rfl⟩, id, rfl, rfl, .touched 0, rfl⟩
  exact ⟨hstored, hcommitted (.touched 0) id document rfl rfl rfl,
    hundone (.touched 0) id .rowNotFound rfl rfl rfl⟩

end Store

end PagedQuery.Document
