import Mathlib.Data.List.Forall2
import PagedQuery.Proofs.Json.Reading
import PagedQuery.Storage.Queries

/-! Runs of dialogues in parts, and the values of queries that a server answers with rows. -/

namespace PagedQuery

/-- The statement that a query is sent as. -/
def Query.statement (q : Query) : Statement := .query q.sql (q.args.map Arg.bound)

section Reading

variable {ε α β : Type}

/-- Reading rows one after the other succeeds when each is read. -/
theorem mapM_eq_ok_iff {read : α → Except ε β} {rows : List α} {values : List β} :
    rows.mapM read = .ok values ↔ List.Forall₂ (fun row v => read row = .ok v) rows values := by
  induction rows generalizing values with
  | nil =>
    rw [List.mapM_nil, List.forall₂_nil_left_iff]
    exact ⟨fun h => (Except.ok.inj h).symm, fun h => by rw [h]; rfl⟩
  | cons row rest ih =>
    simp only [List.mapM_cons, bind_eq_ok_iff, List.forall₂_cons_left_iff, ih]
    constructor
    · rintro ⟨v, hv, vs, hvs, heq⟩
      exact ⟨v, vs, hv, hvs, (Except.ok.inj heq).symm⟩
    · rintro ⟨v, vs, hv, hvs, rfl⟩
      exact ⟨v, hv, vs, hvs, rfl⟩

/-- What is read of a window of the rows is the same window of what is read of all. -/
theorem mapM_window {read : α → Except ε β} {rows : List α} {values : List β}
    (h : rows.mapM read = .ok values) (skipped count : Nat) :
    ((rows.drop skipped).take count).mapM read = .ok ((values.drop skipped).take count) := by
  rw [mapM_eq_ok_iff] at h ⊢
  exact List.forall₂_take count (List.forall₂_drop skipped h)

end Reading

namespace Dialogue

variable {σ α β : Type} {answer : σ → Statement → Reply × σ}

/-- A run goes through the first part and then, from where that ends, through the second. -/
theorem run_bind (d : Dialogue α) (f : α → Dialogue β) (s : σ) :
    (d >>= f).run answer s =
      let first := d.run answer s
      let second := (f first.value).run answer first.state
      ⟨second.value, second.state, first.sent ++ second.sent, first.events ++ second.events⟩ := by
  induction d generalizing s with
  | done a => rfl
  | send statement next ih => simp only [send_bind, run, ih, List.cons_append]
  | report e rest ih => simp only [report_bind, run, ih, List.cons_append]

theorem value_bind (d : Dialogue α) (f : α → Dialogue β) (s : σ) :
    ((d >>= f).run answer s).value =
      ((f (d.run answer s).value).run answer (d.run answer s).state).value := by
  rw [run_bind]

theorem value_countRows {q : Query} {s : σ} {result : ResultSet} {row : Row} {rest : List Row}
    {n : Int64} (hreply : (answer s q.statement).1 = .ok result)
    (hrows : result.rows = row :: rest) (hrow : Row.single Cell.bigint row = .ok n) :
    ((countRows q).run answer s).value = .ok n := by
  simp only [countRows, tell, askQuery, ask, report_bind, done_bind, send_bind, run]
  rw [show Statement.query q.sql (q.args.map Arg.bound) = q.statement from rfl, hreply]
  simp only [hrows]
  exact hrow

theorem value_allRows {read : Row.Reader α} {q : Query} {s : σ} {result : ResultSet}
    {values : List α} (hreply : (answer s q.statement).1 = .ok result)
    (hread : result.rows.mapM read = .ok values) :
    ((allRows read q).run answer s).value = .ok values := by
  simp only [allRows, tell, askQuery, ask, report_bind, done_bind, send_bind, run]
  rw [show Statement.query q.sql (q.args.map Arg.bound) = q.statement from rfl, hreply]
  exact hread

end Dialogue

end PagedQuery
