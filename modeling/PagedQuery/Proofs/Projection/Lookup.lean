import PagedQuery.Projection

/-! Looking up columns by logical name: what a projection resolves is a table of names, and each
declaration adds to it. -/

namespace PagedQuery

namespace OrderedMap

variable {α : Type} {m : OrderedMap α}

/-- Putting changes what is under its own name and nothing else. -/
theorem Indexed.get?_insert (h : m.Indexed) (key : String) (value : α) (other : String) :
    (m.insert key value).get? other = if key = other then some value else m.get? other := by
  unfold OrderedMap.insert get?
  cases hk : m.positions[key]? with
  | some i =>
    have hlt : i < m.entries.size := h.lt_size hk
    by_cases ho : key = other
    · subst ho
      simp [hk, hlt]
    · simp only [if_neg ho]
      cases hj : m.positions[other]? with
      | none => rfl
      | some j =>
        have hij : i ≠ j := by
          rintro rfl
          have hkey := (h key i).mp hk
          rw [(h other i).mp hj] at hkey
          exact ho (Option.some.inj hkey).symm
        simp [Array.getElem?_setIfInBounds_ne hij]
  | none =>
    simp only [Std.HashMap.getElem?_insert]
    by_cases ho : key = other
    · subst ho
      simp [size]
    · have hne : (key == other) = false := by simpa using ho
      simp only [hne, Bool.false_eq_true, if_false, if_neg ho]
      cases hj : m.positions[other]? with
      | none => rfl
      | some j =>
        have hlt : j < m.entries.size := h.lt_size hj
        simp [Array.getElem?_push_lt hlt, hlt]

end OrderedMap

namespace Projection

/-- The columns of a projection by logical name: the qualified names in `table`, and no others. -/
structure Resolves (p : Projection) (table : List (String × String)) : Prop where
  indexed : p.columns.Indexed
  resolve? : ∀ name, p.resolve? name = table.lookup name

variable {p : Projection} {table : List (String × String)}

theorem resolves_ofTable (schema name tableAlias : String) :
    (ofTable schema name tableAlias).Resolves [] where
  indexed := OrderedMap.indexed_empty
  resolve? _ := by simp [Projection.resolve?, ofTable, OrderedMap.get?, OrderedMap.empty]

theorem Resolves.put (h : p.Resolves table) (column logical : String) (label : Option String) :
    (p.put column logical label).Resolves ((logical, p.current ++ "." ++ column) :: table) where
  indexed := h.indexed.insert _ _
  resolve? name := by
    have hput : (p.put column logical label).resolve? name =
        ((p.columns.insert logical ⟨p.current ++ "." ++ column, label⟩).get? name).map
          (·.qualified) := rfl
    rw [hput, h.indexed.get?_insert, List.lookup_cons]
    by_cases hname : logical = name
    · subst hname
      simp
    · have hother : (name == logical) = false := by simpa using Ne.symm hname
      rw [if_neg hname, hother]
      exact h.resolve? name

theorem Resolves.join (h : p.Resolves table) (schema name tableAlias : String) (kind : JoinKind)
    (on : String) : (p.join schema name tableAlias kind on).Resolves table where
  indexed := h.indexed
  resolve? := h.resolve?

end Projection

end PagedQuery
