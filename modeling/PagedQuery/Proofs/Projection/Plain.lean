import PagedQuery.Projection
import PagedQuery.Proofs.Text.Placeholder

/-! Projections whose names and texts have no dollar signs: declaring more of such keeps them so,
and so do all texts that are read off them. -/

namespace PagedQuery

namespace OrderedMap

variable {α : Type}

theorem mem_values_of_get? {m : OrderedMap α} {key : String} {v : α} (h : m.get? key = some v) :
    v ∈ m.values := by
  obtain ⟨i, -, hi⟩ := Option.bind_eq_some_iff.mp h
  obtain ⟨e, he, rfl⟩ := Option.map_eq_some_iff.mp hi
  exact List.mem_map_of_mem (Array.mem_toList_iff.mpr (Array.mem_of_getElem? he))

/-- The values after putting one more are that one and some of those before. -/
theorem mem_values_insert {m : OrderedMap α} {key : String} {value v : α}
    (h : v ∈ (m.insert key value).values) : v = value ∨ v ∈ m.values := by
  obtain ⟨e, he, rfl⟩ := List.mem_map.mp h
  have hentry : e = (key, value) ∨ e ∈ m.toList := by
    unfold insert at he
    split at he
    · rcases Array.mem_or_eq_of_mem_setIfInBounds (Array.mem_toList_iff.mp he) with hmem | heq
      · exact .inr (Array.mem_toList_iff.mpr hmem)
      · exact .inl heq
    · rcases Array.mem_push.mp (Array.mem_toList_iff.mp he) with hmem | heq
      · exact .inr (Array.mem_toList_iff.mpr hmem)
      · exact .inl heq
  rcases hentry with rfl | hmem
  · exact .inl rfl
  · exact .inr (List.mem_map_of_mem hmem)

end OrderedMap

/-- The names and texts that a step of declaring brings. -/
def ProjectionStep.texts : ProjectionStep → List String
  | select column logical | selectAs column logical => [column, logical]
  | join schema table tableAlias _ on => [schema, table, tableAlias, on]

namespace Projection

open Text

/-- No text of the projection that goes into a query has a dollar sign. -/
structure DollarFree (p : Projection) : Prop where
  base : Text.DollarFree s!"{p.schema}.{p.table} {p.tableAlias}"
  current : Text.DollarFree p.current
  columns : ∀ c ∈ p.columns.values, Text.DollarFree c.qualified ∧ Text.DollarFree c.sql
  joins : ∀ j ∈ p.joins.values, Text.DollarFree j.sql

variable {p : Projection}

theorem dollarFree_ofTable {schema table tableAlias : String} (hs : Text.DollarFree schema)
    (ht : Text.DollarFree table) (ha : Text.DollarFree tableAlias) :
    (ofTable schema table tableAlias).DollarFree where
  base := (((hs.append (by decide)).append ht).append (by decide)).append ha
  current := ha
  columns := fun _ hc => nomatch hc
  joins := fun _ hj => nomatch hj

theorem DollarFree.put (h : p.DollarFree) {column logical : String} {label : Option String}
    (hc : Text.DollarFree column) (hl : ∀ l ∈ label, Text.DollarFree l) :
    (p.put column logical label).DollarFree where
  base := h.base
  current := h.current
  columns := fun c hmem => by
    have hqualified : Text.DollarFree s!"{p.current}.{column}" :=
      (h.current.append (by decide)).append hc
    rcases OrderedMap.mem_values_insert hmem with rfl | hmem
    · refine ⟨hqualified, ?_⟩
      cases label with
      | none => exact hqualified
      | some l => exact (hqualified.append (by decide)).append (hl l rfl)
    · exact h.columns c hmem
  joins := h.joins

theorem dollarFree_joinKind (kind : JoinKind) : Text.DollarFree kind.sql := by
  cases kind <;> decide

theorem DollarFree.join (h : p.DollarFree) {schema table tableAlias on : String} (kind : JoinKind)
    (hs : Text.DollarFree schema) (ht : Text.DollarFree table) (ha : Text.DollarFree tableAlias)
    (ho : Text.DollarFree on) : (p.join schema table tableAlias kind on).DollarFree where
  base := h.base
  current := ha
  columns := h.columns
  joins := fun j hmem => by
    rcases OrderedMap.mem_values_insert hmem with rfl | hmem
    · exact ((((((((dollarFree_joinKind kind).append (by decide)).append hs).append
        (by decide)).append ht).append (by decide)).append ha).append (by decide)).append ho
    · exact h.joins j hmem

/-- One more step keeps a projection free of dollar signs. -/
theorem DollarFree.step (h : p.DollarFree) {d : ProjectionStep}
    (hd : ∀ t ∈ d.texts, Text.DollarFree t) : (p.step d).DollarFree := by
  cases d with
  | select column logical =>
    exact h.put (hd column (by simp [ProjectionStep.texts])) fun _ hl => nomatch hl
  | selectAs column logical =>
    refine h.put (hd column (by simp [ProjectionStep.texts])) fun l hl => ?_
    obtain rfl : logical = l := Option.some.inj hl
    exact hd logical (by simp [ProjectionStep.texts])
  | join schema table tableAlias kind on =>
    exact h.join kind (hd schema (by simp [ProjectionStep.texts]))
      (hd table (by simp [ProjectionStep.texts])) (hd tableAlias (by simp [ProjectionStep.texts]))
      (hd on (by simp [ProjectionStep.texts]))

theorem DollarFree.steps (h : p.DollarFree) {declared : List ProjectionStep}
    (hd : ∀ d ∈ declared, ∀ t ∈ d.texts, Text.DollarFree t) : (p.steps declared).DollarFree := by
  induction declared generalizing p with
  | nil => exact h
  | cons d rest ih =>
    rw [List.forall_mem_cons] at hd
    exact ih (h.step hd.1) hd.2

theorem DollarFree.selectList (h : p.DollarFree) : Text.DollarFree p.selectList := by
  refine dollarFree_intercalate (by decide) fun t ht => ?_
  obtain ⟨c, hc, rfl⟩ := List.mem_map.mp ht
  exact (h.columns c hc).2

theorem dollarFree_foldl_joins {joins : List Join} {sql : String} (hsql : Text.DollarFree sql)
    (hjoins : ∀ j ∈ joins, Text.DollarFree j.sql) :
    Text.DollarFree (joins.foldl (fun sql j => sql ++ " " ++ j.sql) sql) := by
  induction joins generalizing sql with
  | nil => exact hsql
  | cons j rest ih =>
    rw [List.forall_mem_cons] at hjoins
    exact ih ((hsql.append (by decide)).append hjoins.1) hjoins.2

theorem DollarFree.fromClause (h : p.DollarFree) : Text.DollarFree p.fromClause :=
  dollarFree_foldl_joins h.base h.joins

theorem DollarFree.resolve? (h : p.DollarFree) {name column : String}
    (hc : p.resolve? name = some column) : Text.DollarFree column := by
  obtain ⟨c, hget, rfl⟩ := Option.map_eq_some_iff.mp hc
  exact (h.columns c (OrderedMap.mem_values_of_get? hget)).1

theorem DollarFree.resolve (h : p.DollarFree) {name : String} (hn : Text.DollarFree name) :
    Text.DollarFree (p.resolve name) := by
  unfold Projection.resolve
  cases hc : p.resolve? name with
  | none => exact hn
  | some column => exact h.resolve? hc

end Projection

end PagedQuery
