import PagedQuery.Proofs.Storage.Transaction
import PagedQuery.Storage.Pool

/-! Where the errors of a dialogue come from: each is the failure of one of its exchanges, and no
exchange fails without an error. -/

namespace PagedQuery

variable {σ ε α β : Type}

/-- The error of a computation that failed. -/
def error? : Except ε α → Option ε
  | .error e => some e
  | .ok _ => none

namespace Dialogue

section Exchanges

variable {answer : σ → Statement → Reply × σ}

/-- The statements of a run with the replies to them, in order. -/
def exchanges (answer : σ → Statement → Reply × σ) : Dialogue α → σ → List (Statement × Reply)
  | done _, _ => []
  | send statement next, s =>
    let (reply, s) := answer s statement
    (statement, reply) :: exchanges answer (next reply) s
  | report _ rest, s => exchanges answer rest s

theorem map_fst_exchanges (d : Dialogue α) (s : σ) :
    (d.exchanges answer s).map Prod.fst = (d.run answer s).sent := by
  induction d generalizing s with
  | done a => rfl
  | send statement next ih => exact congrArg (statement :: ·) (ih _ _)
  | report e rest ih => exact ih s

theorem exchanges_exchange (event : LogEvent) (q : Query) (value : Reply → α) (s : σ) :
    (exchange event q value).exchanges answer s = [(q.statement, (answer s q.statement).1)] := rfl

end Exchanges

/-! ### Failures of exchanges -/

section Failures

variable {failure? : Statement × Reply → Option ε}

/-- The dialogue gives up with `failure`, and no exchange is another failure. -/
def EndsIn (failure? : Statement × Reply → Option ε) (failure : ε) :
    Dialogue (Except ε α) → Prop
  | done result => result = .error failure
  | send statement next =>
    ∀ reply, failure? (statement, reply) = none ∧ EndsIn failure? failure (next reply)
  | report _ rest => EndsIn failure? failure rest

/-- An exchange that is a failure ends the dialogue in it, and without one it ends well. -/
def FailsBy (failure? : Statement × Reply → Option ε) : Dialogue (Except ε α) → Prop
  | done result => ∃ a, result = .ok a
  | send statement next => ∀ reply, match failure? (statement, reply) with
    | some failure => EndsIn failure? failure (next reply)
    | none => FailsBy failure? (next reply)
  | report _ rest => FailsBy failure? rest

theorem EndsIn.run {failure : ε} {d : Dialogue (Except ε α)} (h : d.EndsIn failure? failure)
    (answer : σ → Statement → Reply × σ) (s : σ) : (d.run answer s).value = .error failure ∧
      ∀ x ∈ d.exchanges answer s, failure? x = none := by
  induction d generalizing s with
  | done result => exact ⟨h, List.forall_mem_nil _⟩
  | send statement next ih =>
    obtain ⟨hnone, hnext⟩ := h (answer s statement).1
    obtain ⟨hvalue, hrest⟩ := ih _ hnext (answer s statement).2
    exact ⟨hvalue, List.forall_mem_cons.mpr ⟨hnone, hrest⟩⟩
  | report e rest ih => exact ih h s

/-- The errors of the dialogue are the failures of its exchanges, whatever the server. -/
theorem FailsBy.value_eq_error_iff {d : Dialogue (Except ε α)} (h : d.FailsBy failure?)
    (answer : σ → Statement → Reply × σ) (s : σ) (failure : ε) :
    (d.run answer s).value = .error failure ↔
      ∃ x ∈ d.exchanges answer s, failure? x = some failure := by
  induction d generalizing s with
  | done result =>
    obtain ⟨a, rfl⟩ := h
    simp [Dialogue.run, exchanges]
  | send statement next ih =>
    have hnext := h (answer s statement).1
    simp only [Dialogue.run, exchanges, List.exists_mem_cons_iff]
    cases hfailure : failure? (statement, (answer s statement).1) with
    | none =>
      rw [hfailure] at hnext
      simpa using ih _ hnext (answer s statement).2
    | some first =>
      -- Behind the first failure no exchange is one.
      rw [hfailure] at hnext
      obtain ⟨hvalue, hnone⟩ := hnext.run answer (answer s statement).2
      have hrest : ¬∃ x ∈ (next (answer s statement).1).exchanges answer (answer s statement).2,
          failure? x = some failure := by
        rintro ⟨x, hx, heq⟩
        rw [hnone x hx] at heq
        cases heq
      simp [hvalue, hrest]
  | report e rest ih => exact ih h s

theorem EndsIn.bind {failure : ε} {d : Dialogue (Except ε α)}
    {f : Except ε α → Dialogue (Except ε β)} (h : d.EndsIn failure? failure)
    (hf : (f (.error failure)).EndsIn failure? failure) : (d >>= f).EndsIn failure? failure := by
  induction d with
  | done result =>
    obtain rfl := h
    exact hf
  | send statement next ih => exact fun reply => ⟨(h reply).1, ih reply (h reply).2⟩
  | report e rest ih => exact ih h

theorem FailsBy.bind {d : Dialogue (Except ε α)} {f : Except ε α → Dialogue (Except ε β)}
    (h : d.FailsBy failure?) (herror : ∀ failure, (f (.error failure)).EndsIn failure? failure)
    (hok : ∀ a, (f (.ok a)).FailsBy failure?) : (d >>= f).FailsBy failure? := by
  induction d with
  | done result =>
    obtain ⟨a, rfl⟩ := h
    exact hok a
  | send statement next ih =>
    intro reply
    have hnext := h reply
    show match failure? (statement, reply) with
      | some failure => (next reply >>= f).EndsIn failure? failure
      | none => (next reply >>= f).FailsBy failure?
    cases hfailure : failure? (statement, reply) with
    | none =>
      rw [hfailure] at hnext
      exact ih reply hnext
    | some failure =>
      rw [hfailure] at hnext
      exact EndsIn.bind hnext (herror failure)
  | report e rest ih => exact ih h

theorem FailsBy.map {d : Dialogue (Except ε α)} (h : d.FailsBy failure?) (f : α → β) :
    (d >>= fun a => done (a.map f)).FailsBy failure? :=
  h.bind (fun _ => rfl) fun a => ⟨f a, rfl⟩

/-- A query whose failures end the dialogue, in front of a rest with failures of its own. -/
theorem FailsBy.exchange {γ ε' : Type} {event : LogEvent} {q : Query}
    {value : Reply → Except ε' γ} {rest : Except ε' γ → Dialogue (Except ε α)}
    {convert : ε' → ε} (hend : ∀ e, rest (.error e) = done (.error (convert e)))
    (hvalue : ∀ reply, failure? (q.statement, reply) = (error? (value reply)).map convert)
    (hrest : ∀ c, (rest (.ok c)).FailsBy failure?) :
    (Dialogue.exchange event q value >>= rest).FailsBy failure? := by
  intro reply
  show match failure? (q.statement, reply) with
    | some failure => (rest (value reply)).EndsIn failure? failure
    | none => (rest (value reply)).FailsBy failure?
  rw [hvalue]
  cases value reply with
  | error e =>
    rw [hend]
    exact rfl
  | ok c => exact hrest c

theorem FailsBy.reporting {γ : Type} {d : Dialogue γ} {f : γ → Dialogue (Except ε α)}
    (h : (d >>= f).FailsBy failure?) (events : List LogEvent) :
    ((tellAll events >>= fun _ => d) >>= f).FailsBy failure? := by
  induction events with
  | nil => exact h
  | cons e rest ih => exact ih

/-- In a transaction BEGIN and COMMIT fail by their own errors, a ROLLBACK never. -/
theorem FailsBy.transaction {body : Dialogue (Except ε α)} (h : body.FailsBy failure?)
    {ofStorage : StorageError → ε} (hcontrol : ∀ c reply, failure? (.control c, reply) =
      if c = .rollback then none else (error? reply).map ofStorage) :
    (Dialogue.transaction ofStorage body).FailsBy failure? := by
  have hdrop : ∀ failure, (dropOpen >>= fun _ => done (.error failure) :
      Dialogue (Except ε α)).EndsIn failure? failure :=
    fun failure reply => ⟨hcontrol .rollback reply, rfl⟩
  intro reply
  rw [hcontrol .begin]
  cases reply with
  | error e => exact rfl
  | ok ack =>
    apply h.bind
    -- A failed body is rolled back and keeps its error, also when the rollback fails.
    · intro failure reply
      refine ⟨hcontrol .rollback reply, ?_⟩
      cases reply with
      | error e => exact hdrop failure
      | ok ack => exact rfl
    · intro a reply
      rw [hcontrol .commit]
      cases reply with
      | error e => exact hdrop _
      | ok ack => exact ⟨a, rfl⟩

end Failures

end Dialogue

/-! ### Closed pools -/

namespace Pool

/-- The replies that a dialogue gets through a pool: a closed one lets nothing through. -/
def replying (p : Pool) (answer : σ → Statement → Reply × σ) : σ → Statement → Reply × σ :=
  if p.isClosed then fun s _ => (.error .poolClosed, s) else answer

theorem value_run (p : Pool) (answer : σ → Statement → Reply × σ) (d : Dialogue α) (s : σ) :
    (p.run answer d s).value = (d.run (p.replying answer) s).value := by
  unfold Pool.run replying
  split
  · induction d with
    | done a => rfl
    | send statement next ih => exact ih _
    | report e rest ih => exact ih
  · rfl

theorem sent_run (p : Pool) (answer : σ → Statement → Reply × σ) (d : Dialogue α) (s : σ) :
    (p.run answer d s).sent =
      if p.isClosed then [] else (d.exchanges (p.replying answer) s).map Prod.fst := by
  unfold Pool.run replying
  split
  · induction d with
    | done a => rfl
    | send statement next ih => exact ih _
    | report e rest ih => exact ih
  · rw [Dialogue.map_fst_exchanges]

end Pool

end PagedQuery
