import PagedQuery.Proofs.Search.Rows
import PagedQuery.Proofs.Selection.Meaning
import PagedQuery.Proofs.Text.Blank

/-! The truth value of a WHERE clause on a row. It is true when the row passes all steps of the
selection, and each kind of step asks for something about the cells of its fields. -/

namespace PagedQuery

open SearchCondition

/-- The truth value of a WHERE clause with placeholders numbered from `start`: that of the search
condition in its text, with its arguments in place of the placeholders, or true without a text. -/
inductive Query.Evaluates (q : Query) (start : Nat) (interpret : Atom Arg → Truth) : Truth → Prop
  | absent (h : q.sql = "") : q.Evaluates start interpret .true
  | present {text : String} {e : SearchCondition Nat} {f : SearchCondition Arg}
    (hsql : q.sql = " WHERE " ++ text) (hparses : Parses text e)
    (hreplace : e.replace (Selection.boundFrom start q.args) = some f) :
    q.Evaluates start interpret (f.eval interpret)

theorem Query.Evaluates.unique {q : Query} {start : Nat} {interpret : Atom Arg → Truth}
    {t u : Truth} (h : q.Evaluates start interpret t) (h' : q.Evaluates start interpret u) :
    u = t := by
  have hapart : ∀ text, "" ≠ " WHERE " ++ text := by simp
  cases h with
  | absent hnone =>
    cases h' with
    | absent _ => rfl
    | present hsql _ _ => exact absurd (hnone.symm.trans hsql) (hapart _)
  | present hsql hparses hreplace =>
    cases h' with
    | absent hnone => exact absurd (hnone.symm.trans hsql) (hapart _)
    | present hsql' hparses' hreplace' =>
      rw [hsql, String.append_right_inj] at hsql'
      subst hsql'
      obtain rfl := hparses.unique hparses'
      rw [Option.some.inj (hreplace.symm.trans hreplace')]

namespace Selection

/-- The WHERE clause of conditions on columns that need no quotes has their truth value. -/
theorem evaluates_whereClause {s : Selection} (hnamed : ∀ c ∈ s.conditions, c.Named) (start : Nat)
    (interpret : Atom Arg → Truth) : (s.whereClause start).Evaluates start interpret
      (Condition.holdsAll interpret s.conditions) := by
  by_cases hnone : s.conditions = []
  · rw [hnone]
    apply Query.Evaluates.absent
    rw [whereClause_eq, filterClause, hnone]
    simp
  · obtain ⟨text, hsql, ts, e, f, hspells, hderives, hreplace, heval⟩ :=
      means_whereClause hnone hnamed (binds_boundFrom start _)
    have hvalue : f.eval interpret = Condition.holdsAll interpret s.conditions := heval interpret
    rw [← hvalue]
    exact .present hsql ⟨ts, hspells, hderives⟩ hreplace

end Selection

/-- A group holds when one of its parts does. -/
theorem Condition.holds_anyOf_eq_true {interpret : Atom Arg → Truth} {first : Condition}
    {rest : List Condition} : (anyOf first rest).holds interpret = .true ↔
      ∃ c ∈ first :: rest, c.holds interpret = .true := by
  have hsome : ∀ cs, someHolds interpret cs = .true ↔ ∃ c ∈ cs, c.holds interpret = .true := by
    intro cs
    induction cs with
    | nil => simp [someHolds]
    | cons c cs ih => rw [someHolds, Truth.or_eq_true, ih, List.exists_mem_cons_iff]
  rw [holds, Truth.or_eq_true, hsome, List.exists_mem_cons_iff]

namespace SelectionStep

/-- The condition that a step adds, if it adds one, is true. -/
def Passes (p : Projection) (interpret : Atom Arg → Truth) (a : SelectionStep) : Prop :=
  ∀ c ∈ a.condition? p, c.holds interpret = .true

theorem holdsAll_steps {s : Selection} (hs : s.conditions = []) (asked : List SelectionStep)
    (interpret : Atom Arg → Truth) :
    Condition.holdsAll interpret (s.steps asked).conditions = .true ↔
      ∀ a ∈ asked, a.Passes s.projection interpret := by
  rw [Condition.holdsAll, Truth.all_eq_true, Selection.conditions_steps, hs, List.nil_append]
  simp only [List.forall_mem_map, List.mem_filterMap, Passes, Option.mem_def]
  constructor
  · intro h a ha c hc
    exact h c ⟨a, ha, hc⟩
  · rintro h c ⟨a, ha, hc⟩
    exact h a ha c hc

/-! ### What the steps ask for -/

/-- A step that adds a condition for a value asks for nothing without one. -/
theorem passes_iff_of_map {p : Projection} {interpret : Atom Arg → Truth} {a : SelectionStep}
    {α : Type} {value : Option α} {make : α → Condition} (ha : a.condition? p = value.map make) :
    a.Passes p interpret ↔ ∀ x ∈ value, (make x).holds interpret = .true := by
  rw [Passes, ha]
  cases value <;> simp

section Rows

variable {p : Projection} {alike : Char → Char → Bool} {cells : String → Cell} {field : String}

theorem passes_equalTo {value : Option Value} (h : ∀ v ∈ value, v.Exact) :
    (equalTo field value).Passes p (Atom.truth alike cells) ↔
      ∀ v ∈ value, cells (p.resolve field) = some v := by
  rw [passes_iff_of_map rfl]
  apply forall₂_congr
  intro v hv
  exact Cell.compared_eq_eq_true (h v hv)

theorem passes_compared {op : Comparison} {instant : Option Timestamp} :
    (compared field op (instant.map .timestamp)).Passes p (Atom.truth alike cells) ↔
      ∀ t ∈ instant, ∃ u, cells (p.resolve field) = some (.timestamp u) ∧
        op.accepts (compare u.inNanos t.inNanos) := by
  have hvalue : (compared field op (instant.map .timestamp)).condition? p =
      instant.map fun t => .compare (p.resolve field) op (.value (.timestamp t)) :=
    Option.map_map ..
  rw [passes_iff_of_map hvalue]
  apply forall₂_congr
  intro t ht
  exact Cell.compared_timestamp_eq_true

theorem passes_equalOrNull {value : Option Value} (h : ∀ v ∈ value, v.Exact) :
    (equalOrNull field value).Passes p (Atom.truth alike cells) ↔
      cells (p.resolve field) = value := by
  cases value with
  | none => simp [Passes, condition?, Condition.holds, Atom.truth, Truth.ofOption_eq_true]
  | some v =>
    simp only [Passes, condition?, Option.mem_some_iff, forall_eq']
    exact Cell.compared_eq_eq_true (h v rfl)

theorem passes_among {values : List Value} (h : ∀ v ∈ values, v.Exact) :
    (among field values).Passes p (Atom.truth alike cells) ↔
      values = [] ∨ ∃ v ∈ values, cells (p.resolve field) = some v := by
  cases values with
  | nil => simp [Passes, condition?]
  | cons first rest =>
    have hequal : ∀ v ∈ first :: rest, (cells (p.resolve field)).compared .eq (.value v) = .true ↔
        cells (p.resolve field) = some v := fun v hv => Cell.compared_eq_eq_true (h v hv)
    have hvalue : (among field (first :: rest)).condition? p =
        (some rest).map fun rest => .oneOf (p.resolve field) (.value first) (rest.map .value) := rfl
    rw [passes_iff_of_map hvalue]
    simp only [Option.mem_some_iff, forall_eq', Condition.holds, Atom.truth, Truth.any_eq_true]
    constructor
    · rintro ⟨t, ht, rfl⟩
      rw [← List.map_cons, List.map_map] at ht
      obtain ⟨v, hv, hholds⟩ := List.mem_map.mp ht
      exact .inr ⟨v, hv, (hequal v hv).mp hholds⟩
    · rintro (hnone | ⟨v, hv, hcell⟩)
      · cases hnone
      · refine ⟨_, ?_, (hequal v hv).mpr hcell⟩
        rw [← List.map_cons, List.map_map]
        exact List.mem_map_of_mem hv

theorem passes_holding {text : Option String} :
    (holding field text).Passes p (Atom.truth alike cells) ↔ ∀ needle ∈ text, ¬Text.Blank needle →
      ∃ t, cells (p.resolve field) = some (.text t) ∧ Like.Within alike needle t := by
  rw [passes_iff_of_map rfl, Text.forall_nonBlank?_iff]
  apply forall₃_congr
  intro needle hneedle hblank
  exact Cell.likened_pattern_eq_true

theorem passes_searching {text : Option String} {rest : List String} :
    (searching text (field :: rest)).Passes p (Atom.truth alike cells) ↔ ∀ needle ∈ text,
      ¬Text.Blank needle → ∃ f ∈ field :: rest, ∃ t,
        cells (p.resolve f) = some (.text t) ∧ Like.Within alike needle t := by
  rw [passes_iff_of_map rfl, Text.forall_nonBlank?_iff]
  apply forall₃_congr
  intro needle hneedle hblank
  have hparts : Condition.contains (p.resolve field) needle ::
      rest.map (fun f => .contains (p.resolve f) needle) =
        (field :: rest).map fun f => .contains (p.resolve f) needle := rfl
  rw [Condition.holds_anyOf_eq_true, hparts]
  constructor
  · rintro ⟨c, hc, hholds⟩
    obtain ⟨f, hf, rfl⟩ := List.mem_map.mp hc
    exact ⟨f, hf, Cell.likened_pattern_eq_true.mp hholds⟩
  · rintro ⟨f, hf, hcell⟩
    exact ⟨_, List.mem_map_of_mem hf, Cell.likened_pattern_eq_true.mpr hcell⟩

theorem passes_orderedBy {keys : List SortKey} {interpret : Atom Arg → Truth} :
    (orderedBy keys).Passes p interpret := by
  simp [Passes, condition?]

end Rows

end SelectionStep

end PagedQuery
