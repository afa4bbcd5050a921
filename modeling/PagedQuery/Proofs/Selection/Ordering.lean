import PagedQuery.Proofs.Projection.Order
import PagedQuery.Proofs.Selection.Layout

/-! The sort order that clients ask for: of its keys those count that name declared columns, and
nothing else that a client writes there leaves a trace in a query. -/

namespace PagedQuery.Selection

open Projection (LastDeclared)
open ProjectionStep (logical?)

/-- The keys that name declared columns, in their order and as often as they stand there. -/
def declaredKeys (declared : List ProjectionStep) (keys : List SortKey) : List SortKey :=
  keys.filter fun k => k.name ∈ declared.filterMap logical?

/-- A column with the keyword of a direction. -/
def directed (column : String) : Direction → String
  | .asc => column ++ " ASC"
  | .desc => column ++ " DESC"

/-- The entry sorts by the column of the key, the one that its name was last declared with. -/
def SortsBy (base : String) (declared : List ProjectionStep) (k : SortKey) (entry : String) :
    Prop :=
  ∃ c, LastDeclared base declared k.name c ∧ entry = directed c.qualified k.direction

/-- The entry sorts by the column of the key, or by the name itself where none is declared. -/
def SortsByName (base : String) (declared : List ProjectionStep) (k : SortKey) (entry : String) :
    Prop :=
  SortsBy base declared k entry ∨
    k.name ∉ declared.filterMap logical? ∧ entry = directed k.name k.direction

theorem orderEntry_eq (column : String) (k : SortKey) :
    orderEntry column k = directed column k.direction := by
  rw [orderEntry, String.append_assoc]
  cases k.direction <;> rfl

variable {s t : Selection} {p : Projection}

/-- Requested keys that are no columns add no entry. -/
theorem requestedEntries_eq (hp : s.projection = p) (hindexed : p.columns.Indexed) :
    s.requestedEntries = (s.order.filter fun k => k.name ∈ p.names).filterMap fun k =>
      (p.resolve? k.name).map fun column => orderEntry column k := by
  rw [requestedEntries, List.filterMap_filter, hp]
  apply List.filterMap_congr
  intro k _
  by_cases hname : k.name ∈ p.names
  · rw [if_pos (decide_eq_true hname)]
  · rw [(Projection.resolve?_eq_none_iff hindexed).mpr hname]
    simp

/-- Requested keys that are no columns leave no trace in the sort order. -/
theorem requestedEntries_congr (hs : s.projection = p) (ht : t.projection = p)
    (hindexed : p.columns.Indexed)
    (hkeys : (s.order.filter fun k => k.name ∈ p.names) =
      t.order.filter fun k => k.name ∈ p.names) :
    s.requestedEntries = t.requestedEntries := by
  rw [requestedEntries_eq hs hindexed, requestedEntries_eq ht hindexed, hkeys]

section Declared

variable {base : String} {declared : List ProjectionStep}
  (h : s.projection.Declares base declared)
include h

theorem filter_names_eq (keys : List SortKey) :
    (keys.filter fun k => k.name ∈ s.projection.names) = declaredKeys declared keys := by
  apply List.filter_congr
  intro k _
  rw [h.names]
  simp only [List.mem_eraseDups]

/-- A name is resolved to the column that it was last declared with, or it is not declared. -/
theorem resolve?_cases (name : String) :
    (name ∈ declared.filterMap logical? ∧ ∃ c, LastDeclared base declared name c ∧
        s.projection.resolve? name = some c.qualified) ∨
      name ∉ declared.filterMap logical? ∧ s.projection.resolve? name = none := by
  have hnone : s.projection.resolve? name = none ↔ name ∉ declared.filterMap logical? := by
    rw [Projection.resolve?_eq_none_iff h.indexed, h.names, List.mem_eraseDups]
  by_cases hmem : name ∈ declared.filterMap logical?
  · obtain ⟨column, hresolve⟩ := Option.ne_none_iff_exists'.mp (mt hnone.mp (not_not.mpr hmem))
    obtain ⟨label, hlast⟩ := h.resolve?_eq_some_iff.mp hresolve
    exact .inl ⟨hmem, ⟨column, label⟩, hlast, hresolve⟩
  · exact .inr ⟨hmem, hnone.mpr hmem⟩

/-- The requested entries are those of the keys that name declared columns. -/
theorem forall₂_requestedEntries :
    List.Forall₂ (SortsBy base declared) (declaredKeys declared s.order) s.requestedEntries := by
  refine forall₂_filter_filterMap (fun k => ?_) s.order
  rcases resolve?_cases h k.name with ⟨hmem, c, hlast, hresolve⟩ | ⟨hmem, hresolve⟩
  · exact .inl ⟨hmem, _, by rw [hresolve]; rfl, c, hlast, orderEntry_eq _ k⟩
  · exact .inr ⟨hmem, by rw [hresolve]; rfl⟩

theorem forall₂_defaultEntries :
    List.Forall₂ (SortsByName base declared) s.defaultOrder s.defaultEntries := by
  rw [defaultEntries, List.forall₂_map_right_iff, List.forall₂_same]
  intro k _
  rcases resolve?_cases h k.name with ⟨-, c, hlast, hresolve⟩ | ⟨hmem, hresolve⟩
  · refine .inl ⟨c, hlast, ?_⟩
    rw [orderEntry_eq, Projection.resolve, hresolve]
    rfl
  · refine .inr ⟨hmem, ?_⟩
    rw [orderEntry_eq, Projection.resolve, hresolve]
    rfl

theorem orderClause_of_declaredKeys (hkeys : declaredKeys declared s.order ≠ []) :
    ∃ entries, List.Forall₂ (SortsBy base declared) (declaredKeys declared s.order) entries ∧
      s.orderClause = " ORDER BY " ++ String.intercalate ", " entries := by
  have hentries := forall₂_requestedEntries h
  refine ⟨_, hentries, orderClause_of_requested fun hnil => hkeys ?_⟩
  rwa [hnil, List.forall₂_nil_right_iff] at hentries

theorem orderClause_of_no_declaredKeys (hkeys : declaredKeys declared s.order = []) :
    ∃ entries, List.Forall₂ (SortsByName base declared) s.defaultOrder entries ∧
      s.orderClause =
        if s.defaultOrder = [] then "" else " ORDER BY " ++ String.intercalate ", " entries := by
  have hentries := forall₂_requestedEntries h
  rw [hkeys, List.forall₂_nil_left_iff] at hentries
  exact ⟨_, forall₂_defaultEntries h, orderClause_of_not_requested hentries⟩

/-- Orders with the same keys that name declared columns lead to the same queries. -/
theorem query_orderedBy {keys others : List SortKey}
    (hkeys : declaredKeys declared keys = declaredKeys declared others) (shape : QueryShape) :
    (s.orderedBy keys).query shape = (s.orderedBy others).query shape := by
  have hfilter : (keys.filter fun k => k.name ∈ s.projection.names) =
      others.filter fun k => k.name ∈ s.projection.names := by
    rw [filter_names_eq h, filter_names_eq h, hkeys]
  have hrequested : (s.orderedBy keys).requestedEntries = (s.orderedBy others).requestedEntries :=
    requestedEntries_congr rfl rfl h.indexed hfilter
  have hrows : (s.orderedBy keys).rowsQuery = (s.orderedBy others).rowsQuery := by
    rw [rowsQuery, orderClause, hrequested]
    rfl
  cases shape with
  | rows => exact hrows
  | count => rfl
  | page page pageSize => rw [query, pageQuery, hrows]; rfl
  | first => rw [query, firstQuery, hrows]; rfl
  | byId idField id => rfl

end Declared

theorem args_query_orderedBy (s : Selection) (keys others : List SortKey) (shape : QueryShape) :
    ((s.orderedBy keys).query shape).args = ((s.orderedBy others).query shape).args := by
  cases shape <;> rfl

/-- Whatever is declared, whatever the default order is, whatever a client writes as its sort order,
and whatever steps come before it and, but for other sort orders, behind it. When some of its keys
name declared columns, the rows are sorted by the columns of just those keys, in order, and otherwise
by the default order. So texts with the same such keys lead to the same queries. The count, the WHERE
clause and all arguments are the same for every text. -/
theorem sorted_by_declared_columns (schema table base : String) (declared : List ProjectionStep)
    (defaultOrder : List SortKey) (before : List SelectionStep) {after : List SelectionStep}
    (hafter : ∀ a ∈ after, a.order? = none) :
    let start := ofProjection ((Projection.ofTable schema table base).steps declared) defaultOrder
    let s (text : String) := start.steps (before ++ .orderedBy (SortKey.parseList text) :: after)
    let named (text : String) := declaredKeys declared (SortKey.parseList text)
    (∀ text, named text ≠ [] → ∃ entries,
      List.Forall₂ (SortsBy base declared) (named text) entries ∧
        (s text).orderClause = " ORDER BY " ++ String.intercalate ", " entries) ∧
    (∀ text, named text = [] → ∃ entries,
      List.Forall₂ (SortsByName base declared) defaultOrder entries ∧
        (s text).orderClause =
          if defaultOrder = [] then "" else " ORDER BY " ++ String.intercalate ", " entries) ∧
    (∀ text other, named text = named other →
      ∀ shape, (s text).query shape = (s other).query shape) ∧
    ∀ text other, (s text).query .count = (s other).query .count ∧
      (∀ n, (s text).whereClause n = (s other).whereClause n) ∧
      ∀ shape, ((s text).query shape).args = ((s other).query shape).args := by
  intro start s named
  -- The client's sort order may as well be set last.
  obtain ⟨u, hu⟩ : ∃ u, u = (start.steps before).steps after := ⟨_, rfl⟩
  have hs : ∀ text, s text = u.orderedBy (SortKey.parseList text) := by
    intro text
    show start.steps (before ++ .orderedBy (SortKey.parseList text) :: after) = _
    rw [steps_append, steps_cons, hu]
    exact steps_orderedBy (start.steps before) (SortKey.parseList text) hafter
  have hdefault : u.defaultOrder = defaultOrder := by
    rw [hu, defaultOrder_steps, defaultOrder_steps]
    rfl
  have hdeclares : u.projection.Declares base declared := by
    rw [hu, projection_steps, projection_steps]
    exact (Projection.declares_ofTable schema table base).steps declared
  refine ⟨fun text hnamed => ?_, fun text hnamed => ?_, fun text other hnamed => ?_,
    fun text other => ?_⟩
  · rw [hs]
    exact orderClause_of_declaredKeys (s := u.orderedBy (SortKey.parseList text)) hdeclares hnamed
  · rw [hs, ← hdefault]
    exact orderClause_of_no_declaredKeys (s := u.orderedBy (SortKey.parseList text)) hdeclares hnamed
  · rw [hs, hs]
    exact query_orderedBy hdeclares hnamed
  · rw [hs, hs]
    exact ⟨rfl, fun _ => rfl, args_query_orderedBy u _ _⟩

/-- Keys of a hostile client: unknown ones, a statement, a dash too many, and one column twice. -/
theorem sorted_by_declared_columns_hostile :
    let declared : List ProjectionStep := [.select "title" "title",
      .join "public" "categories" "c" .left "c.id = d.category_id", .selectAs "name" "category"]
    let before : List SelectionStep := [.equalTo "title" (some (.text "$1"))]
    let after : List SelectionStep := [.holding "category" (some "tax")]
    let s (text : String) := (ofProjection ((Projection.ofTable "public" "documents" "d").steps
      declared) [.asc "title"]).steps (before ++ .orderedBy (SortKey.parseList text) :: after)
    let hostile := " title,title; DROP TABLE documents,- category ,--category,1,title"
    (∀ a ∈ after, a.order? = none) ∧
      declaredKeys declared (SortKey.parseList hostile) =
        [.asc "title", .desc "category", .asc "title"] ∧
      (∃ entries, List.Forall₂ (SortsBy "d" declared)
          [.asc "title", .desc "category", .asc "title"] entries ∧
        (s hostile).orderClause = " ORDER BY " ++ String.intercalate ", " entries) ∧
      (s hostile).query (.page 2 10) = (s "title,-category,title").query (.page 2 10) := by
  intro declared before after s hostile
  have hafter : ∀ a ∈ after, a.order? = none := by simp [after, SelectionStep.order?]
  have hnamed : declaredKeys declared (SortKey.parseList hostile) =
      [.asc "title", .desc "category", .asc "title"] := by decide
  have hplain : declaredKeys declared (SortKey.parseList "title,-category,title") =
      [.asc "title", .desc "category", .asc "title"] := by decide
  obtain ⟨hrequested, -, hsame, -⟩ := sorted_by_declared_columns "public" "documents" "d" declared
    [.asc "title"] before hafter
  have hsome : declaredKeys declared (SortKey.parseList hostile) ≠ [] := by
    rw [hnamed]
    exact List.cons_ne_nil _ _
  have hentries : ∃ entries,
      List.Forall₂ (SortsBy "d" declared) (declaredKeys declared (SortKey.parseList hostile))
          entries ∧
        (s hostile).orderClause = " ORDER BY " ++ String.intercalate ", " entries :=
    hrequested hostile hsome
  rw [hnamed] at hentries
  exact ⟨hafter, hnamed, hentries, hsame _ _ (hnamed.trans hplain.symm) _⟩

end PagedQuery.Selection
