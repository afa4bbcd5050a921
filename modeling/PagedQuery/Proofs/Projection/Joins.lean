import PagedQuery.Proofs.Projection.Order

/-! The joins that a sequence of declarations makes, and the aliases that the columns of a projection
are qualified by: none of them is missing from the FROM clause. -/

namespace PagedQuery

namespace OrderedMap

variable {α : Type} {m : OrderedMap α}

/-- Putting writes one entry, at the slot of its name. -/
theorem Indexed.getElem?_insert (h : m.Indexed) (key : String) (value : α) (i : Nat) :
    (m.insert key value).entries[i]? =
      if i = m.slot key then some (key, value) else m.entries[i]? := by
  unfold OrderedMap.insert slot
  cases hk : m.positions[key]? with
  | some k =>
    have hlt : k < m.entries.size := h.lt_size hk
    rw [Std.HashMap.getD_eq_getD_getElem?, hk, Option.getD_some, Array.getElem?_setIfInBounds]
    simp only [hlt, if_true, eq_comm]
  | none =>
    rw [Std.HashMap.getD_eq_getD_getElem?, hk, Option.getD_none, Array.getElem?_push]
    rfl

theorem Indexed.position_of_getElem? (h : m.Indexed) {i : Nat} {e : String × α}
    (he : m.entries[i]? = some e) : m.positions[e.1]? = some i :=
  (h e.1 i).mpr (by rw [he, Option.map_some])

theorem Indexed.slot_of_getElem? (h : m.Indexed) {i : Nat} {e : String × α}
    (he : m.entries[i]? = some e) : m.slot e.1 = i := by
  rw [slot, Std.HashMap.getD_eq_getD_getElem?, h.position_of_getElem? he, Option.getD_some]

theorem Indexed.get?_of_mem (h : m.Indexed) {e : String × α} (he : e ∈ m.toList) :
    m.get? e.1 = some e.2 := by
  obtain ⟨i, hi⟩ := List.mem_iff_getElem?.mp he
  rw [toList, Array.getElem?_toList] at hi
  rw [get?, h.position_of_getElem? hi, Option.bind_some, hi, Option.map_some]

end OrderedMap

namespace ProjectionStep

/-- The column that the step selects. -/
def column? : ProjectionStep → Option String
  | select column _ | selectAs column _ => some column
  | join .. => none

theorem qualified_of_put? {current logical : String} {d : ProjectionStep} {c : Column}
    (h : d.put? current = some (logical, c)) :
    ∃ column, d.column? = some column ∧ d.logical? = some logical ∧
      c.qualified = current ++ "." ++ column := by
  cases d with
  | select column name | selectAs column name =>
    obtain ⟨rfl, rfl⟩ := Prod.mk.inj (Option.some.inj h)
    exact ⟨column, rfl, rfl, rfl⟩
  | join => nomatch h

end ProjectionStep

namespace Join

/-- The declaration that a join comes from. -/
def step (j : Join) : ProjectionStep := .join j.schema j.table j.tableAlias j.kind j.on

/-- The keywords of a join. -/
def keywords : JoinKind → String
  | .inner => "INNER JOIN"
  | .left => "LEFT JOIN"
  | .right => "RIGHT JOIN"
  | .full => "FULL OUTER JOIN"

/-- The table behind its keywords, its alias, and the condition that it is joined on. -/
def spelled (j : Join) : String :=
  keywords j.kind ++ " " ++ j.schema ++ "." ++ j.table ++ " " ++ j.tableAlias ++ " ON " ++ j.on

theorem sql_eq_spelled (j : Join) : j.sql = j.spelled := by
  have hkeywords : j.kind.sql = keywords j.kind := by cases j.kind <;> rfl
  rw [spelled, ← hkeywords]
  rfl

end Join

namespace Projection

open ProjectionStep

/-- The last declaration that joins a table under the alias. -/
def lastJoin? (declared : List ProjectionStep) (name : String) : Option ProjectionStep :=
  declared.reverse.find? (·.joined? = some name)

/-- The aliases of the joins in their order. -/
def joinAliases (p : Projection) : List String := p.joins.values.map (·.tableAlias)

variable {p : Projection} {base : String} {declared : List ProjectionStep}

theorem lastJoin?_append (declared : List ProjectionStep) (d : ProjectionStep) (name : String) :
    lastJoin? (declared ++ [d]) name =
      if d.joined? = some name then some d else lastJoin? declared name := by
  rw [lastJoin?, List.reverse_append, List.reverse_singleton, List.singleton_append,
    List.find?_cons]
  by_cases hd : d.joined? = some name <;> simp [hd, lastJoin?]

/-- The joins are what the declarations make of them: one for every alias, in the order in which the
aliases came first, each at its own place and as it was declared last. -/
structure Joined (p : Projection) (declared : List ProjectionStep) : Prop where
  indexed : p.joins.Indexed
  keys : p.joins.keys = (declared.filterMap joined?).eraseDups
  entry : ∀ (i : Nat) (name : String) (j : Join), p.joins.entries[i]? = some (name, j) →
    j.tableAlias = name ∧ j.index = i ∧ lastJoin? declared name = some j.step

theorem joined_ofTable (schema table base : String) : (ofTable schema table base).Joined [] where
  indexed := OrderedMap.indexed_empty
  keys := rfl
  entry i name j h := by simp [ofTable, OrderedMap.empty] at h

theorem Joined.put (h : p.Joined declared) {d : ProjectionStep} (hd : d.joined? = none)
    (column logical : String) (label : Option String) :
    (p.put column logical label).Joined (declared ++ [d]) where
  indexed := h.indexed
  keys := by
    rw [List.filterMap_append, List.filterMap_cons_none hd, List.filterMap_nil, List.append_nil]
    exact h.keys
  entry i name j hj := by
    rw [lastJoin?_append, hd, if_neg (Option.some_ne_none name).symm]
    exact h.entry i name j hj

theorem Joined.join (h : p.Joined declared) (schema table tableAlias : String) (kind : JoinKind)
    (on : String) : (p.join schema table tableAlias kind on).Joined
      (declared ++ [.join schema table tableAlias kind on]) where
  indexed := h.indexed.insert _ _
  keys := by
    have hjoined : [ProjectionStep.join schema table tableAlias kind on].filterMap joined? =
        [tableAlias] := rfl
    have hkeys := h.indexed.keys_insert tableAlias
      (⟨kind, schema, table, tableAlias, on, p.joins.slot tableAlias⟩ : Join)
    simp only [h.keys, List.mem_eraseDups] at hkeys
    rw [List.filterMap_append, hjoined, eraseDups_concat]
    exact hkeys
  entry i name j hj := by
    rw [Projection.join, h.indexed.getElem?_insert] at hj
    rw [lastJoin?_append]
    split at hj
    -- The entry that was written is the new join, and its slot is its place.
    · rename_i hslot
      obtain ⟨rfl, rfl⟩ := Prod.mk.inj (Option.some.inj hj)
      exact ⟨rfl, hslot.symm, if_pos rfl⟩
    -- Any other entry goes by another alias, since each alias has one slot.
    · rename_i hslot
      have hname : tableAlias ≠ name := by
        rintro rfl
        exact hslot (h.indexed.slot_of_getElem? hj).symm
      have hother : ¬some tableAlias = some name := fun heq => hname (Option.some.inj heq)
      rw [joined?, if_neg hother]
      exact h.entry i name j hj

theorem Joined.step (h : p.Joined declared) (d : ProjectionStep) :
    (p.step d).Joined (declared ++ [d]) := by
  cases d with
  | select column logical => exact h.put rfl column logical none
  | selectAs column logical => exact h.put rfl column logical (some logical)
  | join schema table tableAlias kind on => exact h.join schema table tableAlias kind on

theorem Joined.steps (h : p.Joined declared) (further : List ProjectionStep) :
    (p.steps further).Joined (declared ++ further) :=
  steps_keep (P := Joined) (fun _ _ d h => h.step d) declared h further

theorem Joined.joinAliases_eq (h : p.Joined declared) :
    p.joinAliases = (declared.filterMap joined?).eraseDups := by
  rw [← h.keys, joinAliases, OrderedMap.values, OrderedMap.keys, List.map_map]
  refine List.map_congr_left fun e he => ?_
  obtain ⟨i, hi⟩ := List.mem_iff_getElem?.mp he
  rw [OrderedMap.toList, Array.getElem?_toList] at hi
  exact (h.entry i e.1 e.2 hi).1

theorem Joined.nodup_joinAliases (h : p.Joined declared) : p.joinAliases.Nodup := by
  rw [h.joinAliases_eq, ← h.keys]
  exact h.indexed.nodup_keys

theorem Joined.mem_joinAliases_iff (h : p.Joined declared) {name : String} :
    name ∈ p.joinAliases ↔ ∃ d ∈ declared, d.joined? = some name := by
  rw [h.joinAliases_eq, List.mem_eraseDups, List.mem_filterMap]

/-- The alias in force behind some of the declarations is that of the base table or of a join. -/
theorem Joined.inForce_mem {before after : List ProjectionStep}
    (h : p.Joined (before ++ after)) : inForce base before ∈ base :: p.joinAliases := by
  rw [inForce]
  cases hlast : (before.filterMap joined?).getLast? with
  | none => exact List.mem_cons_self
  | some name =>
    obtain ⟨d, hd, hname⟩ := List.mem_filterMap.mp (List.mem_of_getLast? hlast)
    exact List.mem_cons_of_mem _
      (h.mem_joinAliases_iff.mpr ⟨d, List.mem_append_left _ hd, hname⟩)

/-- Declaring leaves the base table as it is. -/
theorem base_steps (p : Projection) (declared : List ProjectionStep) :
    (p.steps declared).schema = p.schema ∧ (p.steps declared).table = p.table ∧
      (p.steps declared).tableAlias = p.tableAlias := by
  refine steps_keep (P := fun q _ => q.schema = p.schema ∧ q.table = p.table ∧
    q.tableAlias = p.tableAlias) (fun q _ d h => ?_) [] ⟨rfl, rfl, rfl⟩ declared
  cases d <;> exact h

theorem foldl_joins_eq (joins : List Join) (sql : String) :
    joins.foldl (fun sql j => sql ++ " " ++ j.sql) sql =
      String.intercalate " " (sql :: joins.map Join.spelled) := by
  induction joins generalizing sql with
  | nil => exact String.intercalate_singleton.symm
  | cons j rest ih =>
    rw [List.foldl_cons, ih, List.map_cons, String.intercalate_cons_cons, Join.sql_eq_spelled]
    cases rest with
    | nil => simp
    | cons k rest => simp [String.intercalate_cons_cons, String.append_assoc]

/-- Whatever is declared, and in whatever order. The joins stand in the order in which their aliases
were first joined, each alias once, and each is as it was joined last and knows its place. The FROM
clause is the base table followed by them. Every column is qualified by the alias that was in force
where its name was last declared, and that is the alias of the base table or of a join that is still
there. The aliases of the FROM clause differ unless the one of the base table was joined again. -/
theorem columns_qualified_within_from (schema table base : String)
    (declared : List ProjectionStep) :
    let p := (ofTable schema table base).steps declared
    p.joinAliases = (declared.filterMap joined?).eraseDups ∧ p.joinAliases.Nodup ∧
    (∀ (i : Nat) (j : Join), p.joins.values[i]? = some j →
      j.index = i ∧ lastJoin? declared j.tableAlias = some j.step) ∧
    p.fromClause = String.intercalate " "
      ((schema ++ "." ++ table ++ " " ++ base) :: p.joins.values.map Join.spelled) ∧
    (∀ (logical : String) (c : Column), (logical, c) ∈ p.columns.toList →
      ∃ before d after column, declared = before ++ d :: after ∧
        d.logical? = some logical ∧ (∀ e ∈ after, e.logical? ≠ some logical) ∧
        d.column? = some column ∧ c.qualified = inForce base before ++ "." ++ column ∧
        inForce base before ∈ base :: p.joinAliases) ∧
    ((p.tableAlias :: p.joinAliases).Nodup ↔ ∀ d ∈ declared, d.joined? ≠ some base) := by
  intro p
  have hjoined : p.Joined declared := (joined_ofTable schema table base).steps declared
  have hdeclares : p.Declares base declared := (declares_ofTable schema table base).steps declared
  obtain ⟨hschema, htable, halias⟩ :
      p.schema = schema ∧ p.table = table ∧ p.tableAlias = base :=
    base_steps (ofTable schema table base) declared
  refine ⟨hjoined.joinAliases_eq, hjoined.nodup_joinAliases, ?_, ?_, ?_, ?_⟩
  · intro i j hj
    rw [OrderedMap.values, OrderedMap.toList, List.getElem?_map, Array.getElem?_toList,
      Option.map_eq_some_iff] at hj
    obtain ⟨⟨name, j⟩, hentry, rfl⟩ := hj
    obtain ⟨hname, hindex, hlast⟩ := hjoined.entry i name j hentry
    exact ⟨hindex, hname ▸ hlast⟩
  · rw [fromClause, foldl_joins_eq, hschema, htable, halias]
    rfl
  · intro logical c hc
    have hget : p.columns.get? logical = some c := hdeclares.indexed.get?_of_mem hc
    obtain ⟨before, d, after, hsplit, hput, hlater⟩ := (hdeclares.get? logical c).mp hget
    obtain ⟨column, hcolumn, hlogical, hqualified⟩ := qualified_of_put? hput
    have hwithin : inForce base before ∈ base :: p.joinAliases :=
      Joined.inForce_mem (hsplit ▸ hjoined)
    exact ⟨before, d, after, column, hsplit, hlogical, hlater, hcolumn, hqualified, hwithin⟩
  · rw [List.nodup_cons, halias, hjoined.mem_joinAliases_iff]
    constructor
    · rintro ⟨hbase, -⟩ d hd hjoin
      exact hbase ⟨d, hd, hjoin⟩
    · intro hnever
      refine ⟨?_, hjoined.nodup_joinAliases⟩
      rintro ⟨d, hd, hjoin⟩
      exact hnever d hd hjoin

end Projection

end PagedQuery
