import PagedQuery.Proofs.Selection.Steps
import PagedQuery.Proofs.Text.Blank

/-! The normal form of a sequence of steps: the steps that add a condition, and behind them the last
sort order. It leads to the same selection as the sequence itself. -/

namespace PagedQuery

namespace SelectionStep

/-- The step adds a condition: the value or the text that it needs is there, and so are the fields or
the values that it lists. A sort order adds none. -/
def Effective : SelectionStep → Prop
  | compared _ _ value | equalTo _ value => value.isSome
  | equalOrNull _ _ | restrict _ => True
  | among _ values => values ≠ []
  | holding _ text => Text.HasText text
  | searching text fields => Text.HasText text ∧ fields ≠ []
  | orderedBy _ => False

instance : DecidablePred Effective
  | compared _ _ value | equalTo _ value => inferInstanceAs (Decidable (value.isSome = true))
  | equalOrNull _ _ | restrict _ => isTrue trivial
  | among _ values => inferInstanceAs (Decidable (values ≠ []))
  | holding _ text => inferInstanceAs (Decidable (Text.HasText text))
  | searching text fields => inferInstanceAs (Decidable (Text.HasText text ∧ fields ≠ []))
  | orderedBy _ => isFalse id

/-- The step is there to add a condition, but adds none. -/
structure Absent (a : SelectionStep) : Prop where
  not_effective : ¬a.Effective
  no_order : a.order? = none

/-- The steps that add a condition in their order, and the last sort order. -/
def normalForm (asked : List SelectionStep) : List SelectionStep :=
  asked.filter (fun a => a.Effective) ++
    ((asked.filterMap order?).getLast?.map orderedBy).toList

variable {a : SelectionStep} {p : Projection}

theorem isSome_condition?_iff (p : Projection) (a : SelectionStep) :
    (a.condition? p).isSome ↔ a.Effective := by
  cases a with
  | compared field op value => simp [condition?, Effective]
  | equalTo field value => simp [condition?, Effective]
  | equalOrNull field value => cases value <;> simp [condition?, Effective]
  | among field values => cases values <;> simp [condition?, Effective]
  | holding field text =>
    rw [condition?, Option.isSome_map]
    exact Text.isSome_bind_nonBlank?
  | searching text fields =>
    cases fields with
    | nil => simp [condition?, Effective]
    | cons field rest =>
      rw [condition?, Option.isSome_map, Text.isSome_bind_nonBlank?]
      simp [Effective]
  | restrict c => simp [condition?, Effective]
  | orderedBy keys => simp [condition?, Effective]

theorem condition?_of_not_effective (h : ¬a.Effective) : a.condition? p = none := by
  rwa [← Option.not_isSome_iff_eq_none, isSome_condition?_iff]

theorem order?_of_effective (h : a.Effective) : a.order? = none := by
  cases a with
  | orderedBy keys => exact h.elim
  | _ => rfl

theorem filterMap_condition?_effective (p : Projection) (asked : List SelectionStep) :
    (asked.filter fun a => a.Effective).filterMap (condition? p) =
      asked.filterMap (condition? p) := by
  rw [List.filterMap_filter]
  apply List.filterMap_congr
  intro a _
  by_cases ha : a.Effective
  · rw [if_pos (decide_eq_true ha)]
  · rw [condition?_of_not_effective ha, ite_self]

/-- The normal form adds the same conditions and sets the same order. -/
theorem filterMap_condition?_normalForm (p : Projection) (asked : List SelectionStep) :
    (normalForm asked).filterMap (condition? p) = asked.filterMap (condition? p) := by
  rw [normalForm, List.filterMap_append, filterMap_condition?_effective]
  cases (asked.filterMap order?).getLast? with
  | none => exact List.append_nil _
  | some keys => exact List.append_nil _

theorem getLast?_order?_normalForm (asked : List SelectionStep) :
    ((normalForm asked).filterMap order?).getLast? = (asked.filterMap order?).getLast? := by
  have heffective : (asked.filter fun a => a.Effective).filterMap order? = [] := by
    rw [List.filterMap_eq_nil_iff]
    intro a ha
    exact order?_of_effective (of_decide_eq_true (List.mem_filter.mp ha).2)
  rw [normalForm, List.filterMap_append, heffective, List.nil_append]
  cases (asked.filterMap order?).getLast? with
  | none => rfl
  | some keys => rfl

end SelectionStep

namespace Selection

open SelectionStep

theorem steps_normalForm (s : Selection) (asked : List SelectionStep) :
    s.steps (normalForm asked) = s.steps asked := by
  rw [steps_eq, steps_eq, filterMap_condition?_normalForm, getLast?_order?_normalForm]

theorem step_of_absent (s : Selection) {a : SelectionStep} (h : a.Absent) : s.step a = s := by
  rw [step_eq, condition?_of_not_effective h.not_effective, h.no_order]
  simp

/-- What an effective step adds to a selection without conditions. -/
theorem conditions_step_ofProjection (p : Projection) (defaultOrder : List SortKey)
    (a : SelectionStep) :
    ((ofProjection p defaultOrder).step a).conditions = (a.condition? p).toList := by
  rw [step_eq]
  rfl

/-- Whatever the projection, the default order and the steps. The conditions are one for each
effective step, in order, and each is the one that its step adds by itself. All that is rendered is
rendered alike from the normal form of the steps. So a step that is absent may stand anywhere or not
at all, and a sort order may as well be set before or behind any other step. -/
theorem rendered_from_normalForm (p : Projection) (defaultOrder : List SortKey)
    (asked : List SelectionStep) :
    let start := ofProjection p defaultOrder
    let s := start.steps asked
    let t := start.steps (normalForm asked)
    List.Forall₂ (fun a c => (start.step a).conditions = [c]) (asked.filter fun a => a.Effective)
        s.conditions ∧
      (t.conditions = s.conditions ∧ (∀ n, t.whereClause n = s.whereClause n) ∧
        t.orderClause = s.orderClause ∧ (∀ shape, t.query shape = s.query shape) ∧
        t.argCount = s.argCount) ∧
      (∀ before after a, Absent a → start.steps (before ++ a :: after) =
        start.steps (before ++ after)) ∧
      ∀ before after a keys, a.order? = none →
        start.steps (before ++ .orderedBy keys :: a :: after) =
          start.steps (before ++ a :: .orderedBy keys :: after) := by
  intro start s t
  have hsame : t = s := steps_normalForm start asked
  refine ⟨?conditions, ?rendered, ?absent, ?moved⟩
  case conditions =>
    have hconditions : s.conditions = asked.filterMap (condition? p) := conditions_steps start asked
    rw [hconditions]
    refine forall₂_filter_filterMap (fun a => ?_) asked
    rw [conditions_step_ofProjection, ← isSome_condition?_iff p]
    cases a.condition? p <;> simp
  case rendered =>
    rw [hsame]
    exact ⟨rfl, fun _ => rfl, rfl, fun _ => rfl, rfl⟩
  case absent =>
    intro before after a ha
    rw [steps_append, steps_append, steps_cons, step_of_absent _ ha]
  case moved =>
    intro before after a keys ha
    simp only [steps_append, steps_cons]
    exact congrArg (Selection.steps · after) (step_orderedBy _ keys ha)

/-- Steps of every kind that is absent, between sort orders and effective steps. -/
theorem rendered_from_normalForm_mixed :
    let start := ofProjection (Projection.ofTable "public" "documents" "d") [.asc "id"]
    let asked : List SelectionStep := [.orderedBy [.asc "tag"], .equalTo "status" none,
      .equalOrNull "tag" none, .holding "title" (some " \u00a0"), .among "id" [],
      .orderedBy [.desc "title"], .searching (some "tax") [], .among "id" [.int 1, .int 2]]
    let normal : List SelectionStep :=
      [.equalOrNull "tag" none, .among "id" [.int 1, .int 2], .orderedBy [.desc "title"]]
    normalForm asked = normal ∧ (start.steps normal).rowsQuery = (start.steps asked).rowsQuery ∧
      Absent (.searching (some "tax") []) ∧ start.steps [.searching (some "tax") []] = start := by
  intro start asked normal
  have hnormal : normalForm asked = normal := rfl
  have habsent : Absent (.searching (some "tax") []) := ⟨by decide, rfl⟩
  obtain ⟨-, hrendered, hmissing, -⟩ :=
    rendered_from_normalForm (Projection.ofTable "public" "documents" "d") [.asc "id"] asked
  rw [hnormal] at hrendered
  exact ⟨hnormal, hrendered.2.2.2.1 .rows, habsent, hmissing [] [] _ habsent⟩

end Selection

end PagedQuery
