import Mathlib.Data.List.Forall2
import PagedQuery.Proofs.Condition.Shape
import PagedQuery.Proofs.Selection.Layout

/-! Two selections narrowed by steps of the same shape send the same texts with as many arguments:
values reach the arguments and nothing else. -/

namespace PagedQuery

open Condition (AllSameShape)

/-- Two steps that differ in their values only: what is absent, or blank where a text is looked for,
is so in both. -/
inductive SelectionStep.SameShape : SelectionStep → SelectionStep → Prop where
  | compared (field : String) (op : Comparison) {v w : Option Value} (h : v.isSome = w.isSome) :
    SameShape (.compared field op v) (.compared field op w)
  | equalTo (field : String) {v w : Option Value} (h : v.isSome = w.isSome) :
    SameShape (.equalTo field v) (.equalTo field w)
  | equalOrNull (field : String) {v w : Option Value} (h : v.isSome = w.isSome) :
    SameShape (.equalOrNull field v) (.equalOrNull field w)
  | among (field : String) {vs ws : List Value} (h : vs.length = ws.length) :
    SameShape (.among field vs) (.among field ws)
  | holding (field : String) {t u : Option String}
    (h : (t.bind Text.nonBlank?).isSome = (u.bind Text.nonBlank?).isSome) :
    SameShape (.holding field t) (.holding field u)
  | searching (fields : List String) {t u : Option String}
    (h : (t.bind Text.nonBlank?).isSome = (u.bind Text.nonBlank?).isSome) :
    SameShape (.searching t fields) (.searching u fields)
  | restrict {c d : Condition} (h : c.SameShape d) : SameShape (.restrict c) (.restrict d)
  | orderedBy (keys : List SortKey) : SameShape (.orderedBy keys) (.orderedBy keys)

/-- The same question, up to the identifier of the row that is asked for. -/
inductive QueryShape.SameShape : QueryShape → QueryShape → Prop where
  | refl (shape : QueryShape) : SameShape shape shape
  | byId (idField : String) (id other : Arg) : SameShape (.byId idField id) (.byId idField other)

/-- Two queries of the same text with as many arguments. -/
structure Query.SameText (q r : Query) : Prop where
  sql_eq : q.sql = r.sql
  length_eq : q.args.length = r.args.length

theorem Query.sameText_of_segments {c d : Clause} (h : c.segments = d.segments) (n : Nat) :
    Query.SameText ⟨c.written n, c.args⟩ ⟨d.written n, d.args⟩ where
  sql_eq := by rw [Clause.written_eq_segments, h, ← Clause.written_eq_segments]
  length_eq := by
    rw [Clause.length_args, Clause.length_args, Clause.slotCount_eq_segments, h,
      ← Clause.slotCount_eq_segments]

theorem Condition.AllSameShape.segments_conjoined {cs ds : List Condition}
    (h : AllSameShape cs ds) : (conjoined cs).segments = (conjoined ds).segments := by
  induction cs generalizing ds with
  | nil =>
    cases h
    rfl
  | cons c rest ih =>
    cases h with
    | cons hc hrest => simp [conjoined, hc.segments_eq, ih hrest]

namespace SelectionStep

theorem allSameShape_map {α : Type} {v w : Option α} (h : v.isSome = w.isSome)
    {f : α → Condition} (hf : ∀ a b, (f a).SameShape (f b)) :
    AllSameShape (v.map f).toList (w.map f).toList := by
  cases v with
  | none =>
    cases w with
    | none => exact .nil
    | some b => nomatch h
  | some a =>
    cases w with
    | none => nomatch h
    | some b => exact .cons (hf a b) .nil

theorem allSameShape_fields (p : Projection) (fields : List String) (needle other : String) :
    AllSameShape (fields.map fun f => .contains (p.resolve f) needle)
      (fields.map fun f => .contains (p.resolve f) other) := by
  induction fields with
  | nil => exact .nil
  | cons f rest ih => exact .cons (.contains _ _ _) ih

/-- Steps of the same shape add conditions of the same shape. -/
theorem SameShape.condition? {a b : SelectionStep} (h : a.SameShape b) (p : Projection) :
    AllSameShape (a.condition? p).toList (b.condition? p).toList := by
  cases h with
  | compared field op h => exact allSameShape_map h fun _ _ => .compare _ _ _ _
  | equalTo field h => exact allSameShape_map h fun _ _ => .compare _ _ _ _
  | @equalOrNull field v w h =>
    cases v with
    | none =>
      cases w with
      | none => exact .cons (.isNull _) .nil
      | some b => nomatch h
    | some a =>
      cases w with
      | none => nomatch h
      | some b => exact .cons (.compare _ _ _ _) .nil
  | @among field vs ws h =>
    cases vs with
    | nil =>
      rw [List.eq_nil_of_length_eq_zero h.symm]
      exact .nil
    | cons v rest =>
      cases ws with
      | nil => nomatch h
      | cons w others =>
        have hrest : (rest.map Arg.value).length = (others.map Arg.value).length := by
          simpa using h
        exact .cons (.oneOf _ _ _ hrest) .nil
  | holding field h => exact allSameShape_map h fun _ _ => .contains _ _ _
  | searching fields h =>
    cases fields with
    | nil => exact .nil
    | cons field rest =>
      exact allSameShape_map h fun a b => .anyOf (.contains _ _ _) (allSameShape_fields p rest a b)
  | restrict h => exact .cons h .nil
  | orderedBy keys => exact .nil

theorem SameShape.order?_eq {a b : SelectionStep} (h : a.SameShape b) : a.order? = b.order? := by
  cases h <;> rfl

end SelectionStep

namespace Selection

/-- Two selections that differ in the values of their conditions only. -/
structure SameShape (s t : Selection) : Prop where
  projection : s.projection = t.projection
  conditions : AllSameShape s.conditions t.conditions
  order : s.order = t.order
  defaultOrder : s.defaultOrder = t.defaultOrder

variable {s t : Selection}

theorem SameShape.step (h : s.SameShape t) {a b : SelectionStep} (hab : a.SameShape b) :
    (s.step a).SameShape (t.step b) := by
  rw [step_eq, step_eq]
  refine ⟨h.projection, h.conditions.append ?_, ?_, h.defaultOrder⟩
  · rw [← h.projection]
    exact hab.condition? s.projection
  · show a.order?.getD s.order = b.order?.getD t.order
    rw [hab.order?_eq, h.order]

theorem SameShape.steps (h : s.SameShape t) {asked others : List SelectionStep}
    (hasked : List.Forall₂ SelectionStep.SameShape asked others) :
    (s.steps asked).SameShape (t.steps others) := by
  induction hasked generalizing s t with
  | nil => exact h
  | cons hab _ ih => exact ih (h.step hab)

theorem SameShape.segments_filterClause (h : s.SameShape t) :
    s.filterClause.segments = t.filterClause.segments := by
  have hconditions := h.conditions
  unfold filterClause
  generalize s.conditions = cs at hconditions
  generalize t.conditions = ds at hconditions
  cases hconditions with
  | nil => rfl
  | cons hc hrest => simp [hc.segments_eq, hrest.segments_conjoined]

theorem SameShape.orderClause_eq (h : s.SameShape t) : s.orderClause = t.orderClause := by
  have hrequested : s.requestedEntries = t.requestedEntries := by
    rw [requestedEntries, requestedEntries, h.projection, h.order]
  have hdefault : s.defaultEntries = t.defaultEntries := by
    rw [defaultEntries, defaultEntries, h.projection, h.defaultOrder]
  rw [orderClause, orderClause, hrequested, hdefault]

theorem SameShape.segments_rowsLayout (h : s.SameShape t) :
    s.rowsLayout.segments = t.rowsLayout.segments := by
  simp only [rowsLayout, Clause.segments_append, h.projection, h.segments_filterClause,
    h.orderClause_eq]

theorem SameShape.segments_layout (h : s.SameShape t) {shape other : QueryShape}
    (hshape : shape.SameShape other) : (s.layout shape).segments = (t.layout other).segments := by
  cases hshape with
  | refl =>
    cases shape with
    | rows => exact h.segments_rowsLayout
    | count => simp only [layout, Clause.segments_append, h.projection, h.segments_filterClause]
    | page page pageSize => simp only [layout, Clause.segments_append, h.segments_rowsLayout]
    | first => simp only [layout, Clause.segments_append, h.segments_rowsLayout]
    | byId idField id => simp only [layout, Clause.segments_append, h.projection]
  | byId idField id other =>
    simp only [layout, Clause.segments_append, Clause.segments_slot, h.projection]

theorem SameShape.query (h : s.SameShape t) (shape : QueryShape) :
    (s.query shape).SameText (t.query shape) := by
  rw [query_eq, query_eq]
  exact Query.sameText_of_segments (h.segments_layout (.refl shape)) 1

/-- Values never reach a text: whatever the projection and the default order, steps of the same
shape lead to the same texts with as many arguments, in the WHERE clause from every start on and in
the query of every shape, whatever row is asked for. -/
theorem sameText_of_sameShape (p : Projection) (defaultOrder : List SortKey)
    {asked others : List SelectionStep} (h : List.Forall₂ SelectionStep.SameShape asked others) :
    let s := (ofProjection p defaultOrder).steps asked
    let t := (ofProjection p defaultOrder).steps others
    (∀ start, (s.whereClause start).SameText (t.whereClause start)) ∧
      ∀ shape other : QueryShape, shape.SameShape other →
        (s.query shape).SameText (t.query other) := by
  intro s t
  have hstart : (ofProjection p defaultOrder).SameShape (ofProjection p defaultOrder) :=
    ⟨rfl, .nil, rfl, rfl⟩
  have hrun : s.SameShape t := hstart.steps h
  refine ⟨fun start => ?_, fun shape other hshape => ?_⟩
  · rw [whereClause_eq, whereClause_eq]
    exact Query.sameText_of_segments hrun.segments_filterClause start
  · rw [query_eq, query_eq]
    exact Query.sameText_of_segments (hrun.segments_layout hshape) 1

/-- A harmless value and a hostile one, in a comparison, a list, a pattern and an identifier. -/
theorem sameText_of_sameShape_hostile :
    let s := (ofProjection (Projection.ofTable "public" "documents" "d") []).steps
      [.equalTo "title" (some (.text "a")), .among "tag" [.text "b", .int 1],
        .restrict (.anyOf (.contains "d.title" "c") [.isNull "d.tag"])]
    let t := (ofProjection (Projection.ofTable "public" "documents" "d") []).steps
      [.equalTo "title" (some (.bool true)), .among "tag" [.text "' OR $9 --", .text "$1"],
        .restrict (.anyOf (.contains "d.title" "%'; DROP TABLE documents") [.isNull "d.tag"])]
    (s.whereClause 3).SameText (t.whereClause 3) ∧
      (s.query (.byId "id" (.value (.int 7)))).SameText
        (t.query (.byId "id" (.value (.text "7 OR 1=1")))) := by
  intro s t
  have h : (∀ start, (s.whereClause start).SameText (t.whereClause start)) ∧ _ :=
    sameText_of_sameShape _ _
      (.cons (.equalTo _ rfl) (.cons (.among _ rfl) (.cons
        (.restrict (.anyOf (.contains _ _ _) (.cons (.isNull _) .nil))) .nil)))
  exact ⟨h.1 3, h.2 _ _ (.byId _ _ _)⟩

end Selection

end PagedQuery
