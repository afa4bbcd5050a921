import PagedQuery.Proofs.Document.Texts
import PagedQuery.Proofs.Page.Normal
import PagedQuery.Proofs.Selection.Alignment

/-! The search of a list: the condition that it adds behind those of the filter, and that bringing a
request into bounds changes the patterns of that condition and nothing else of what is sent. -/

namespace PagedQuery.Document.Store

/-- The title or the name of the category holds the text. -/
def searchGroup (text : String) : Condition :=
  .anyOf (.contains "d.title" text) [.contains "c.name" text]

/-- The arguments of the group: the pattern of the text for either column. -/
def searchArgs (text : String) : List Arg :=
  [.value (.text (Condition.pattern text)), .value (.text (Condition.pattern text))]

theorem values_searchGroup (text : String) : (searchGroup text).values = searchArgs text := rfl

/-- The selection `s` asks for all that `plain` does, and behind that for the text, if there is one. -/
structure Seeks (plain s : Selection) (text : Option String) : Prop where
  conditions : s.conditions = plain.conditions ++ (text.map searchGroup).toList
  rows_args : s.rowsQuery.args = plain.rowsQuery.args ++ text.elim [] searchArgs
  count_args : s.countQuery.args = plain.countQuery.args ++ text.elim [] searchArgs

theorem seeks_of_conditions {plain s : Selection} {text : Option String}
    (h : s.conditions = plain.conditions ++ (text.map searchGroup).toList) :
    Seeks plain s text := by
  have hvalues : s.conditions.flatMap Condition.values =
      plain.conditions.flatMap Condition.values ++ text.elim [] searchArgs := by
    rw [h, List.flatMap_append]
    cases text with
    | none => rfl
    | some text => simp [values_searchGroup]
  refine ⟨h, ?rows, ?count⟩
  case rows =>
    show (s.query .rows).args = (plain.query .rows).args ++ _
    rw [Selection.args_query, Selection.args_query]
    exact hvalues
  case count =>
    show (s.query .count).args = (plain.query .count).args ++ _
    rw [Selection.args_query, Selection.args_query]
    exact hvalues

theorem condition?_searching (r : PageRequest) :
    (SelectionStep.searching r.search searchNames).condition? projection =
      r.sought.map searchGroup := by
  have htitle : projection.resolve "title" = "d.title" := resolve_projection "title"
  have hname : projection.resolve "category_name" = "c.name" := resolve_projection "category_name"
  rw [searchNames, SelectionStep.condition?, ← PageRequest.sought_eq_bind]
  simp only [List.map_cons, List.map_nil, htitle, hname]
  rfl

theorem conditions_listed (r : PageRequest) (f : Filter) : (listed r f).conditions =
    f.steps.filterMap (SelectionStep.condition? projection) ++
      (r.sought.map searchGroup).toList := by
  have hprojection : everything.projection = projection := rfl
  rw [listed, Selection.conditions_steps, hprojection, List.filterMap_append]
  rw [List.filterMap_cons, condition?_searching]
  cases r.sought <;> rfl

/-- A list seeks what its request does, beside what it asks for without a search. -/
theorem seeks_listed (r : PageRequest) (f : Filter) :
    Seeks (listed { r with search := none } f) (listed r f) r.sought := by
  have hnone : ({ r with search := none } : PageRequest).sought = none := rfl
  apply seeks_of_conditions
  rw [conditions_listed, conditions_listed, hnone, Option.map_none, Option.toList_none,
    List.append_nil]

theorem sameShape_listed_bounded (r : PageRequest) (b : PageBounds) (f : Filter) :
    (listed r f).SameShape (listed (r.bounded b) f) := by
  have hfields : f.SameFields f := ⟨rfl, rfl, rfl, Iff.rfl, rfl, rfl, rfl, rfl⟩
  have hsearch : Text.HasText r.search ↔ Text.HasText (r.bounded b).search :=
    (r.hasText_bounded b).symm
  exact sameShape_everything.steps (List.rel_append hfields.steps
    (.cons (.searching searchNames (isSome_eq_of_hasText hsearch)) (.cons (.orderedBy _) .nil)))

/-- Whatever the bounds and the request. Bringing it into bounds a second time changes nothing. Its
search is then the one that was sought, trimmed, so it is absent or a text that is not empty and has
no blanks at its ends. With any filter, both requests lead to the same texts, in the same order and
with as many arguments. Both lists seek a text or neither does, the one the text as it was asked for
and the other the trimmed one, and they differ in the patterns of these texts only. -/
theorem sameText_listed_bounded (b : PageBounds) (r : PageRequest) :
    (r.bounded b).bounded b = r.bounded b ∧
    (r.bounded b).search = r.sought.map Text.trim ∧
    (∀ text ∈ (r.bounded b).search, text ≠ "" ∧ Text.Trimmed text.toList) ∧
    ∀ f : Filter,
      let plain := listed { r with search := none } f
      let raw := listed r f
      let clean := listed (r.bounded b) f
      raw.orderClause = clean.orderClause ∧
      (∀ shape, (raw.query shape).SameText (clean.query shape)) ∧
      Seeks plain raw r.sought ∧ Seeks plain clean (r.sought.map Text.trim) := by
  refine ⟨r.bounded_bounded b, r.cleanSearch_eq, fun text h => PageRequest.trimmed_of_bounded h,
    fun f => ?_⟩
  intro plain raw clean
  have hshape : raw.SameShape clean := sameShape_listed_bounded r b f
  refine ⟨hshape.orderClause_eq, hshape.query, seeks_listed r f, ?_⟩
  rw [← r.sought_bounded b]
  exact seeks_listed (r.bounded b) f

/-- A search between blanks, under bounds that no check accepts. -/
theorem sameText_listed_bounded_padded :
    let b : PageBounds := ⟨5, 0⟩
    let r : PageRequest := { search := some "\u00a0tax " }
    let clean := (r.bounded b).bounded b
    let pattern (text : String) : Arg := .value (.text text)
    clean.search = some "tax" ∧
      (listed r {}).countQuery.sql = (listed clean {}).countQuery.sql ∧
      (listed r {}).countQuery.args = [pattern "%\u00a0tax %", pattern "%\u00a0tax %"] ∧
      (listed clean {}).countQuery.args = [pattern "%tax%", pattern "%tax%"] := by
  intro b r clean pattern
  obtain ⟨hagain, hsearch, -, htexts⟩ := sameText_listed_bounded b r
  obtain ⟨-, hsame, hraw, hclean⟩ := htexts {}
  have hfull : ¬Text.Blank "\u00a0tax " := fun hblank =>
    absurd (hblank 't' (by decide)) (by decide)
  have hsought : r.sought = some "\u00a0tax " := PageRequest.sought_eq_some_iff.mpr ⟨rfl, hfull⟩
  have htrim : Text.trim "\u00a0tax " = "tax" := rfl
  have hplain : (listed { r with search := none } {}).countQuery.args = [] := rfl
  have hraw := hraw.count_args
  have hclean := hclean.count_args
  rw [hsought, hplain] at hraw hclean
  rw [hsought, Option.map_some, htrim] at hsearch
  rw [Option.map_some, htrim] at hclean
  rw [show clean = r.bounded b from hagain]
  exact ⟨hsearch, (hsame .count).sql_eq, hraw, hclean⟩

end PagedQuery.Document.Store
