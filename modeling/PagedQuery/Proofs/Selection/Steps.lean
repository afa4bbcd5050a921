import Mathlib.Data.List.Forall2
import PagedQuery.Selection.Step

/-! What a sequence of steps does to a selection: each step adds at most one condition or replaces
the sort order, and changes nothing else. -/

namespace PagedQuery

/-- Entries of a list that are mapped are related to what they are mapped to, one by one, when the
others are left out by both sides. -/
theorem forall₂_filter_filterMap {α β : Type} {R : α → β → Prop} {P : α → Prop} [DecidablePred P]
    {f : α → Option β} (h : ∀ a, (P a ∧ ∃ b, f a = some b ∧ R a b) ∨ ¬P a ∧ f a = none)
    (entries : List α) :
    List.Forall₂ R (entries.filter fun a => P a) (entries.filterMap f) := by
  induction entries with
  | nil => exact .nil
  | cons a rest ih =>
    rcases h a with ⟨ha, b, hb, hab⟩ | ⟨ha, hb⟩
    · rw [List.filter_cons, if_pos (decide_eq_true ha), List.filterMap_cons_some hb]
      exact .cons hab ih
    · rw [List.filter_cons, if_neg (by simpa using ha), List.filterMap_cons_none hb]
      exact ih

namespace SelectionStep

/-- The condition that a step adds over a projection, if it adds one. -/
def condition? (p : Projection) : SelectionStep → Option Condition
  | compared field op value => value.map fun v => .compare (p.resolve field) op (.value v)
  | equalTo field value => value.map fun v => .compare (p.resolve field) .eq (.value v)
  | equalOrNull field (some v) => some (.compare (p.resolve field) .eq (.value v))
  | equalOrNull field none => some (.isNull (p.resolve field))
  | among _ [] => none
  | among field (v :: rest) => some (.oneOf (p.resolve field) (.value v) (rest.map .value))
  | holding field text => (text.bind Text.nonBlank?).map (.contains (p.resolve field))
  | searching _ [] => none
  | searching text (field :: rest) => (text.bind Text.nonBlank?).map fun needle =>
    .anyOf (.contains (p.resolve field) needle)
      (rest.map fun f => .contains (p.resolve f) needle)
  | restrict c => some c
  | orderedBy _ => none

/-- The sort order that a step sets, if it sets one. -/
def order? : SelectionStep → Option (List SortKey)
  | orderedBy keys => some keys
  | _ => none

end SelectionStep

namespace Selection

theorem restrict?_eq (s : Selection) (c : Option Condition) :
    s.restrict? c = { s with conditions := s.conditions ++ c.toList } := by
  cases c with
  | none => simp [restrict?]
  | some c => rfl

/-- One step adds its condition and sets its order. -/
theorem step_eq (s : Selection) (a : SelectionStep) :
    s.step a = { s with
      conditions := s.conditions ++ (a.condition? s.projection).toList
      order := a.order?.getD s.order } := by
  cases a with
  | compared field op value => exact restrict?_eq s _
  | equalTo field value => exact restrict?_eq s _
  | equalOrNull field value => cases value <;> rfl
  | among field values =>
    cases values with
    | nil => exact restrict?_eq s none
    | cons v rest => rfl
  | holding field text => exact restrict?_eq s _
  | searching text fields =>
    rw [step, searching, restrict?_eq]
    cases fields with
    | nil => cases text.bind Text.nonBlank? <;> rfl
    | cons field rest =>
      cases h : text.bind Text.nonBlank? <;>
        simp [SelectionStep.condition?, SelectionStep.order?, Condition.anyOf?, h]
  | restrict c => rfl
  | orderedBy keys => simp [step, orderedBy, SelectionStep.condition?, SelectionStep.order?]

theorem projection_steps (s : Selection) (asked : List SelectionStep) :
    (s.steps asked).projection = s.projection := by
  induction asked generalizing s with
  | nil => rfl
  | cons a rest ih => rw [steps_cons, ih, step_eq]

theorem defaultOrder_steps (s : Selection) (asked : List SelectionStep) :
    (s.steps asked).defaultOrder = s.defaultOrder := by
  induction asked generalizing s with
  | nil => rfl
  | cons a rest ih => rw [steps_cons, ih, step_eq]

/-- The conditions stand in the order in which they were added. -/
theorem conditions_steps (s : Selection) (asked : List SelectionStep) :
    (s.steps asked).conditions =
      s.conditions ++ asked.filterMap (SelectionStep.condition? s.projection) := by
  induction asked generalizing s with
  | nil => simp
  | cons a rest ih =>
    rw [steps_cons, ih, step_eq, List.append_assoc, List.filterMap_cons]
    cases a.condition? s.projection <;> rfl

/-- The last sort order counts. -/
theorem order_steps (s : Selection) (asked : List SelectionStep) :
    (s.steps asked).order =
      ((asked.filterMap SelectionStep.order?).getLast?).getD s.order := by
  induction asked generalizing s with
  | nil => rfl
  | cons a rest ih =>
    rw [steps_cons, ih, step_eq, List.filterMap_cons]
    cases a.order? with
    | none => rfl
    | some keys => simp [List.getLast?_cons]

/-- The conditions and the order that steps lead to are all that they change. -/
theorem steps_eq (s : Selection) (asked : List SelectionStep) :
    s.steps asked = { s with
      conditions := s.conditions ++ asked.filterMap (SelectionStep.condition? s.projection)
      order := ((asked.filterMap SelectionStep.order?).getLast?).getD s.order } := by
  rw [← conditions_steps, ← order_steps]
  conv => rhs; rw [← projection_steps s asked, ← defaultOrder_steps s asked]

theorem step_orderedBy (s : Selection) (keys : List SortKey) {a : SelectionStep}
    (ha : a.order? = none) : (s.orderedBy keys).step a = (s.step a).orderedBy keys := by
  rw [step_eq, step_eq, ha]
  rfl

/-- A sort order may as well be set after steps that set none. -/
theorem steps_orderedBy (s : Selection) (keys : List SortKey) {asked : List SelectionStep}
    (h : ∀ a ∈ asked, a.order? = none) :
    (s.orderedBy keys).steps asked = (s.steps asked).orderedBy keys := by
  induction asked generalizing s with
  | nil => rfl
  | cons a rest ih =>
    rw [List.forall_mem_cons] at h
    rw [steps_cons, step_orderedBy s keys h.1, ih _ h.2, steps_cons]

end Selection

end PagedQuery
