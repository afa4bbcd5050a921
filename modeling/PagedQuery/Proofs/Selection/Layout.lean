import PagedQuery.Proofs.Condition.Parts
import PagedQuery.Proofs.Selection.Steps

/-! Every query of a selection as one clause: its text is the text of the clause with placeholders
numbered from the start, its arguments are those of the slots. -/

namespace PagedQuery

/-- Further conditions, each behind an AND. -/
def Condition.conjoined : List Condition → Clause
  | [] => .text ""
  | c :: rest => .text " AND " ++ (c.clause ++ conjoined rest)

theorem Condition.args_conjoined (cs : List Condition) :
    (conjoined cs).args = cs.flatMap values := by
  induction cs with
  | nil => rfl
  | cons c rest ih => simp [conjoined, args_clause, ih]

namespace Selection

/-- The WHERE clause with its slots. -/
def filterClause (s : Selection) : Clause :=
  match s.conditions with
  | [] => .text ""
  | c :: rest => .text " WHERE " ++ (c.clause ++ Condition.conjoined rest)

/-- All selected rows, with slots. -/
def rowsLayout (s : Selection) : Clause :=
  .text ("SELECT " ++ s.projection.selectList ++ " FROM " ++ s.projection.fromClause) ++
    (s.filterClause ++ .text s.orderClause)

/-- The query of a shape with its slots. -/
def layout (s : Selection) : QueryShape → Clause
  | .rows => s.rowsLayout
  | .count => .text ("SELECT COUNT(*) FROM " ++ s.projection.fromClause) ++ s.filterClause
  | .page page pageSize => s.rowsLayout ++ .text (PageWindow.ofPage page pageSize).sql
  | .first => s.rowsLayout ++ .text " LIMIT 1"
  | .byId idField id =>
    .text ("SELECT " ++ s.projection.selectList ++ " FROM " ++ s.projection.fromClause ++
      " WHERE " ++ s.projection.resolve idField ++ " = ") ++ .slot id

/-- Conditions rendered one after the other are one clause with an AND between them. -/
theorem renderAll_eq (c : Condition) (rest : List Condition) (n : Nat) (args : List Arg) :
    String.intercalate " AND " (renderAll (c :: rest) n args).1 =
        (c.clause ++ Condition.conjoined rest).written n ∧
      (renderAll (c :: rest) n args).2 = args ++ (c :: rest).flatMap Condition.values := by
  induction rest generalizing c n args with
  | nil =>
    simp [renderAll, Condition.render, Clause.render_eq, Condition.conjoined,
      Condition.args_clause]
  | cons d rest ih =>
    obtain ⟨htexts, hargs⟩ := ih d (n + c.clause.slotCount) (args ++ c.values)
    have hstep : renderAll (c :: d :: rest) n args =
        (c.clause.written n :: (renderAll (d :: rest) (n + c.clause.slotCount)
          (args ++ c.values)).1,
          (renderAll (d :: rest) (n + c.clause.slotCount) (args ++ c.values)).2) := by
      rw [← Condition.args_clause]
      rfl
    rw [hstep]
    constructor
    · rw [String.intercalate_cons_of_ne_nil (by simp [renderAll]), htexts]
      simp [Condition.conjoined, String.append_assoc]
    · rw [hargs, List.append_assoc]
      rfl

theorem args_filterClause (s : Selection) :
    s.filterClause.args = s.conditions.flatMap Condition.values := by
  unfold filterClause
  cases s.conditions with
  | nil => rfl
  | cons c rest => simp [Condition.args_clause, Condition.args_conjoined]

theorem whereClause_eq (s : Selection) (start : Nat) :
    s.whereClause start = ⟨s.filterClause.written start, s.filterClause.args⟩ := by
  rw [args_filterClause]
  unfold whereClause filterClause
  cases s.conditions with
  | nil => simp
  | cons c rest =>
    obtain ⟨htexts, hargs⟩ := renderAll_eq c rest start []
    simp only [List.isEmpty_cons, Bool.false_eq_true, if_false, htexts, hargs, List.nil_append,
      Clause.written_append, Clause.written_text, Clause.slotCount_text, Nat.add_zero]

theorem orderClause_of_requested {s : Selection} (h : s.requestedEntries ≠ []) :
    s.orderClause = " ORDER BY " ++ String.intercalate ", " s.requestedEntries := by
  rw [← List.isEmpty_eq_false_iff] at h
  simp [orderClause, h]

theorem orderClause_of_not_requested {s : Selection} (h : s.requestedEntries = []) :
    s.orderClause = if s.defaultOrder = [] then ""
      else " ORDER BY " ++ String.intercalate ", " s.defaultEntries := by
  simp [orderClause, h, defaultEntries]

theorem countQuery_sql (s : Selection) : s.countQuery.sql =
    "SELECT COUNT(*) FROM " ++ s.projection.fromClause ++ (s.whereClause 1).sql := rfl

theorem rowsQuery_sql (s : Selection) : s.rowsQuery.sql = "SELECT " ++ s.projection.selectList ++
    " FROM " ++ s.projection.fromClause ++ (s.whereClause 1).sql ++ s.orderClause := rfl

theorem rowsQuery_eq (s : Selection) :
    s.rowsQuery = ⟨s.rowsLayout.written 1, s.rowsLayout.args⟩ := by
  simp [rowsQuery, rowsLayout, whereClause_eq, String.append_assoc]

theorem countQuery_eq (s : Selection) :
    s.countQuery = ⟨(s.layout .count).written 1, (s.layout .count).args⟩ := by
  unfold countQuery layout
  simp only [whereClause_eq, Clause.written_append, Clause.written_text, Clause.slotCount_text,
    Clause.args_append, Clause.args_text, List.nil_append, Nat.add_zero]

theorem byIdQuery_eq (s : Selection) (idField : String) (id : Arg) :
    s.byIdQuery idField id =
      ⟨(s.layout (.byId idField id)).written 1, (s.layout (.byId idField id)).args⟩ := by
  have hslot : " = $1" = " = " ++ Clause.placeholder 1 := by decide
  unfold byIdQuery layout
  simp only [hslot, Clause.written_append, Clause.written_text, Clause.written_slot,
    Clause.slotCount_text, Clause.args_append, Clause.args_text, Clause.args_slot,
    List.nil_append, Nat.add_zero, String.append_assoc]

theorem query_eq (s : Selection) (shape : QueryShape) :
    s.query shape = ⟨(s.layout shape).written 1, (s.layout shape).args⟩ := by
  cases shape with
  | rows => exact rowsQuery_eq s
  | count => exact countQuery_eq s
  | page page pageSize =>
    unfold query pageQuery layout
    simp [rowsQuery_eq]
  | first =>
    unfold query firstQuery layout
    simp [rowsQuery_eq]
  | byId idField id => exact byIdQuery_eq s idField id

end Selection

end PagedQuery
