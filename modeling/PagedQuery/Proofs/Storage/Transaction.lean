import PagedQuery.Proofs.Storage.Replies
import PagedQuery.Storage.Transaction

/-! What a transaction sends and what comes of it, whatever its body does and the server replies:
success is committed, failure is rolled back and stays what it is. -/

namespace PagedQuery.Dialogue

variable {σ ε α β : Type}

/-! ### Dialogues that leave the delimiters to others -/

/-- All that the dialogue can send are queries. -/
def OnlyQueries : Dialogue α → Prop
  | done _ => True
  | send statement next => (∃ sql args, statement = .query sql args) ∧ ∀ r, (next r).OnlyQueries
  | report _ rest => rest.OnlyQueries

theorem onlyQueries_exchange (event : LogEvent) (q : Query) (value : Reply → α) :
    (exchange event q value).OnlyQueries :=
  ⟨⟨_, _, rfl⟩, fun _ => trivial⟩

theorem OnlyQueries.bind {d : Dialogue α} {f : α → Dialogue β} (h : d.OnlyQueries)
    (h' : ∀ a, (f a).OnlyQueries) : (d >>= f).OnlyQueries := by
  induction d with
  | done a => exact h' a
  | send statement next ih => exact ⟨h.1, fun r => ih r (h.2 r)⟩
  | report event rest ih => exact ih h

/-- No delimiter is sent, whatever the replies. -/
theorem OnlyQueries.control_not_mem_sent {d : Dialogue α} (h : d.OnlyQueries)
    (answer : σ → Statement → Reply × σ) (c : Control) (s : σ) :
    .control c ∉ (d.run answer s).sent := by
  induction d generalizing s with
  | done a => exact List.not_mem_nil
  | send statement next ih =>
    obtain ⟨⟨sql, args, rfl⟩, hnext⟩ := h
    intro hmem
    rcases List.mem_cons.mp hmem with hfirst | hrest
    · nomatch hfirst
    · exact ih _ (hnext _) _ hrest
  | report event rest ih => exact ih h s

/-! ### The end of a transaction -/

/-- What is sent when a transaction is dropped because its end was refused. -/
def afterEnd : Reply → List Statement
  | .ok _ => []
  | .error _ => [.control .rollback]

theorem commit_not_mem_afterEnd (reply : Reply) : .control .commit ∉ afterEnd reply := by
  cases reply <;> simp [afterEnd]

section Ends

variable {answer : σ → Statement → Reply × σ}

theorem sent_commit (ofStorage : StorageError → ε) (a : α) (s : σ) :
    ((commit ofStorage a).run answer s).sent =
      .control .commit :: afterEnd (answer s (.control .commit)).1 := by
  simp only [commit, ask, send_bind, done_bind, run]
  cases (answer s (.control .commit)).1 <;> rfl

/-- A commit that is refused is an error. -/
theorem value_commit (ofStorage : StorageError → ε) (a : α) (s : σ) :
    ((commit ofStorage a).run answer s).value =
      match (answer s (.control .commit)).1 with
      | .ok _ => .ok a
      | .error e => .error (ofStorage e) := by
  simp only [commit, ask, send_bind, done_bind, run]
  cases (answer s (.control .commit)).1 <;> rfl

theorem sent_rollback (failure : ε) (s : σ) :
    ((rollback failure : Dialogue (Except ε α)).run answer s).sent =
      .control .rollback :: afterEnd (answer s (.control .rollback)).1 := by
  simp only [rollback, ask, send_bind, done_bind, run]
  cases (answer s (.control .rollback)).1 <;> rfl

/-- A rollback that is refused does not hide the failure. -/
theorem value_rollback (failure : ε) (s : σ) :
    ((rollback failure : Dialogue (Except ε α)).run answer s).value = .error failure := by
  simp only [rollback, ask, send_bind, done_bind, run]
  cases (answer s (.control .rollback)).1 <;> rfl

end Ends

/-! ### The whole transaction -/

/-- How a transaction ends, by what came of its body. -/
def ending (ofStorage : StorageError → ε) : Except ε α → Dialogue (Except ε α)
  | .ok a => commit ofStorage a
  | .error failure => rollback failure

section Whole

variable {answer : σ → Statement → Reply × σ} {s : σ} (ofStorage : StorageError → ε)
  (body : Dialogue (Except ε α))

/-- A transaction that does not begin sends nothing else, and its body is not run. -/
theorem run_transaction_of_refused {e : StorageError}
    (hbegin : (answer s (.control .begin)).1 = .error e) :
    (transaction ofStorage body).run answer s =
      ⟨.error (ofStorage e), (answer s (.control .begin)).2, [.control .begin], []⟩ := by
  simp only [transaction, ask, send_bind, done_bind, run, hbegin]
  rfl

variable {ack : ResultSet} (hbegin : (answer s (.control .begin)).1 = .ok ack)
include hbegin

/-- Once it has begun, a transaction is its body and the end that the body calls for. -/
theorem run_transaction_of_begun : (transaction ofStorage body).run answer s =
    let inner := body.run answer (answer s (.control .begin)).2
    let last := (ending ofStorage inner.value).run answer inner.state
    ⟨last.value, last.state, .control .begin :: (inner.sent ++ last.sent),
      inner.events ++ last.events⟩ := by
  simp only [transaction, ask, send_bind, done_bind, run, hbegin, run_bind]
  cases (body.run answer (answer s (.control .begin)).2).value <;> rfl

variable {state : σ} {sent : List Statement} {events : List LogEvent}

/-- A body that succeeds is followed by the commit, and the commit decides. -/
theorem run_transaction_of_ok {a : α}
    (hrun : body.run answer (answer s (.control .begin)).2 = ⟨.ok a, state, sent, events⟩) :
    let committed := (answer state (.control .commit)).1
    ((transaction ofStorage body).run answer s).sent =
        .control .begin :: (sent ++ .control .commit :: afterEnd committed) ∧
      ((transaction ofStorage body).run answer s).value = match committed with
        | .ok _ => .ok a
        | .error e => .error (ofStorage e) := by
  rw [run_transaction_of_begun ofStorage body hbegin, hrun]
  exact ⟨congrArg (.control .begin :: sent ++ ·) (sent_commit ofStorage a state),
    value_commit ofStorage a state⟩

/-- A body that fails is followed by the rollback, and the failure stays what it is. -/
theorem run_transaction_of_error {failure : ε}
    (hrun : body.run answer (answer s (.control .begin)).2 = ⟨.error failure, state, sent, events⟩) :
    ((transaction ofStorage body).run answer s).sent = .control .begin ::
        (sent ++ .control .rollback :: afterEnd (answer state (.control .rollback)).1) ∧
      ((transaction ofStorage body).run answer s).value = .error failure := by
  rw [run_transaction_of_begun ofStorage body hbegin, hrun]
  exact ⟨congrArg (.control .begin :: sent ++ ·) (sent_rollback failure state),
    value_rollback failure state⟩

end Whole

/-- Success is the outcome of a body that succeeds when the server begins and commits. -/
theorem value_transaction_eq_ok_iff (ofStorage : StorageError → ε) (body : Dialogue (Except ε α))
    (answer : σ → Statement → Reply × σ) (s : σ) (a : α) :
    let begun := answer s (.control .begin)
    let inner := body.run answer begun.2
    ((transaction ofStorage body).run answer s).value = .ok a ↔
      (∃ ack, begun.1 = .ok ack) ∧ inner.value = .ok a ∧
        ∃ ack, (answer inner.state (.control .commit)).1 = .ok ack := by
  intro begun inner
  cases hbegin : begun.1 with
  | error e =>
    rw [run_transaction_of_refused ofStorage body hbegin]
    simp
  | ok ack =>
    cases hrun : inner with | mk value state sent events
    cases value with
    | error failure =>
      rw [(run_transaction_of_error ofStorage body hbegin hrun).2]
      simp
    | ok b =>
      rw [(run_transaction_of_ok ofStorage body hbegin hrun).2]
      cases (answer state (.control .commit)).1 <;> simp

/-- A body that leaves the delimiters to the transaction is committed exactly when it succeeds. -/
theorem commit_mem_sent_iff (ofStorage : StorageError → ε) {body : Dialogue (Except ε α)}
    (hbody : body.OnlyQueries) (answer : σ → Statement → Reply × σ) (s : σ) :
    let begun := answer s (.control .begin)
    .control .commit ∈ ((transaction ofStorage body).run answer s).sent ↔
      (∃ ack, begun.1 = .ok ack) ∧ ∃ a, (body.run answer begun.2).value = .ok a := by
  intro begun
  have hinner := hbody.control_not_mem_sent answer .commit begun.2
  cases hbegin : begun.1 with
  | error e =>
    rw [run_transaction_of_refused ofStorage body hbegin]
    simp
  | ok ack =>
    cases hrun : body.run answer begun.2 with | mk value state sent events
    rw [hrun] at hinner
    cases value with
    | error failure =>
      rw [(run_transaction_of_error ofStorage body hbegin hrun).1]
      simpa using ⟨hinner, commit_not_mem_afterEnd _⟩
    | ok a =>
      rw [(run_transaction_of_ok ofStorage body hbegin hrun).1]
      simp

/-- Whatever the body, when it leaves the delimiters to the transaction, and whatever the server:
BEGIN comes first, and where it is refused it is all. Otherwise the body's statements follow, and
after them one COMMIT if the body succeeded, and a ROLLBACK and no COMMIT at all if it failed. A
failure is the outcome whatever the reply to the ROLLBACK; success is the outcome only when the
COMMIT is acknowledged. -/
theorem transaction_commits_iff_ok (ofStorage : StorageError → ε) {body : Dialogue (Except ε α)}
    (hbody : body.OnlyQueries) (answer : σ → Statement → Reply × σ) (s : σ) :
    let run := (transaction ofStorage body).run answer s
    let begun := answer s (.control .begin)
    let inner := body.run answer begun.2
    let committed := (answer inner.state (.control .commit)).1
    let undone := (answer inner.state (.control .rollback)).1
    run.sent.head? = some (.control .begin) ∧
    (∀ e, begun.1 = .error e →
      run = ⟨.error (ofStorage e), begun.2, [.control .begin], []⟩) ∧
    (∀ ack a, begun.1 = .ok ack → inner.value = .ok a →
      run.sent = .control .begin :: (inner.sent ++ .control .commit :: afterEnd committed) ∧
      .control .commit ∉ inner.sent ++ afterEnd committed ∧
      run.value = match committed with
        | .ok _ => .ok a
        | .error e => .error (ofStorage e)) ∧
    (∀ ack failure, begun.1 = .ok ack → inner.value = .error failure →
      run.sent = .control .begin :: (inner.sent ++ .control .rollback :: afterEnd undone) ∧
      .control .commit ∉ run.sent ∧ run.value = .error failure) ∧
    (∀ a, run.value = .ok a ↔ (∃ ack, begun.1 = .ok ack) ∧ inner.value = .ok a ∧
      ∃ ack, committed = .ok ack) := by
  intro run begun inner committed undone
  refine ⟨?_, ?_, ?_, ?_, value_transaction_eq_ok_iff ofStorage body answer s⟩
  · cases hbegin : begun.1 with
    | error e => exact congrArg (·.sent.head?) (run_transaction_of_refused ofStorage body hbegin)
    | ok ack => exact congrArg (·.sent.head?) (run_transaction_of_begun ofStorage body hbegin)
  · intro e hbegin
    exact run_transaction_of_refused ofStorage body hbegin
  · intro ack a hbegin hok
    have hrun : inner = ⟨.ok a, inner.state, inner.sent, inner.events⟩ := by rw [← hok]
    obtain ⟨hsent, hvalue⟩ := run_transaction_of_ok ofStorage body hbegin hrun
    refine ⟨hsent, fun hmem => ?_, hvalue⟩
    rcases List.mem_append.mp hmem with hmem | hmem
    · exact hbody.control_not_mem_sent answer .commit begun.2 hmem
    · exact commit_not_mem_afterEnd committed hmem
  · intro ack failure hbegin herror
    have hrun : inner = ⟨.error failure, inner.state, inner.sent, inner.events⟩ := by rw [← herror]
    obtain ⟨hsent, hvalue⟩ := run_transaction_of_error ofStorage body hbegin hrun
    refine ⟨hsent, fun hmem => ?_, hvalue⟩
    obtain ⟨-, a, ha⟩ := (commit_mem_sent_iff ofStorage hbody answer s).mp hmem
    nomatch herror.symm.trans ha

/-- A commit that the server refuses, after a body that succeeded, and the transaction that is
dropped then. -/
theorem transaction_commits_iff_ok_refused :
    let body : Dialogue (Except StorageError Int64) := countRows ⟨"SELECT 1", []⟩
    let refusal : StorageError := .database (some "40001") "could not serialize access"
    let server : Script := ⟨[.ok (.ofRows ["n"] [[some (.bigint 1)]])], [(.commit, refusal)]⟩
    let run := (transaction id body).run Script.answer server
    body.OnlyQueries ∧
      run.sent = [.control .begin, .query "SELECT 1" [], .control .commit, .control .rollback] ∧
      run.value = .error refusal := by
  intro body refusal server run
  have hbody : body.OnlyQueries := by
    rw [show body = _ from countRows_eq _]
    exact onlyQueries_exchange _ _ _
  obtain ⟨-, -, hok, -, -⟩ := transaction_commits_iff_ok id hbody Script.answer server
  obtain ⟨hsent, -, hvalue⟩ := hok (.touched 0) 1 rfl rfl
  exact ⟨hbody, hsent, hvalue⟩

end PagedQuery.Dialogue
