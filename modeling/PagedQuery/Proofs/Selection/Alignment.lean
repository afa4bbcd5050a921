import PagedQuery.Proofs.Condition.Plain
import PagedQuery.Proofs.Projection.Plain
import PagedQuery.Proofs.Selection.Layout

/-! Placeholders and arguments of every query: over names without dollar signs, the numbers in the
text run from the start on without a gap, one for each argument, and the arguments are the values
of the steps in order. -/

namespace PagedQuery

namespace SelectionStep

/-- The names of fields and columns that a step brings. Those of a sort order come from clients and
are not among them. -/
def names : SelectionStep → List String
  | compared field _ _ | equalTo field _ | equalOrNull field _ | among field _ | holding field _ =>
    [field]
  | searching _ fields => fields
  | restrict c => c.columns
  | orderedBy _ => []

/-- The values that a step contributes, in order; a text that is looked for contributes a pattern
for each field. -/
def values : SelectionStep → List Arg
  | compared _ _ value | equalTo _ value | equalOrNull _ value => (value.map .value).toList
  | among _ vs => vs.map .value
  | holding _ text => (text.bind Text.nonBlank?).toList.map fun needle =>
    .value (.text (Condition.pattern needle))
  | searching text fields => (text.bind Text.nonBlank?).toList.flatMap fun needle =>
    fields.map fun _ => .value (.text (Condition.pattern needle))
  | restrict c => c.values
  | orderedBy _ => []

theorem values_condition? (p : Projection) (a : SelectionStep) :
    (a.condition? p).toList.flatMap Condition.values = a.values := by
  cases a with
  | compared field op value => cases value <;> simp [condition?, values, Condition.values]
  | equalTo field value => cases value <;> simp [condition?, values, Condition.values]
  | equalOrNull field value => cases value <;> simp [condition?, values, Condition.values]
  | among field vs => cases vs <;> simp [condition?, values, Condition.values]
  | holding field text =>
    cases h : text.bind Text.nonBlank? <;> simp [condition?, values, Condition.values, h]
  | searching text fields =>
    cases fields with
    | nil => cases h : text.bind Text.nonBlank? <;> simp [condition?, values, h]
    | cons field rest =>
      cases h : text.bind Text.nonBlank? <;>
        simp [condition?, values, Condition.values, Condition.allValues_eq_flatMap, h,
          List.flatMap_map, ← List.map_eq_flatMap]
  | restrict c => simp [condition?, values]
  | orderedBy keys => rfl

/-- The columns that a step names over a projection. -/
def columns (p : Projection) : SelectionStep → List String
  | restrict c => c.columns
  | a => a.names.map p.resolve

theorem columns_condition? {p : Projection} {a : SelectionStep} {c : Condition}
    (hc : a.condition? p = some c) : c.columns = a.columns p := by
  cases a with
  | compared field op value =>
    obtain ⟨v, -, rfl⟩ := Option.map_eq_some_iff.mp hc
    rfl
  | equalTo field value =>
    obtain ⟨v, -, rfl⟩ := Option.map_eq_some_iff.mp hc
    rfl
  | equalOrNull field value =>
    cases value <;> obtain rfl := Option.some.inj hc <;> rfl
  | among field vs =>
    cases vs with
    | nil => nomatch hc
    | cons v rest =>
      obtain rfl := Option.some.inj hc
      rfl
  | holding field text =>
    obtain ⟨needle, -, rfl⟩ := Option.map_eq_some_iff.mp hc
    rfl
  | searching text fields =>
    cases fields with
    | nil => nomatch hc
    | cons field rest =>
      obtain ⟨needle, -, rfl⟩ := Option.map_eq_some_iff.mp hc
      simp [Condition.columns, Condition.allColumns_eq_flatMap, columns, names, List.flatMap_map,
        ← List.map_eq_flatMap]
  | restrict c =>
    obtain rfl := Option.some.inj hc
    rfl
  | orderedBy keys => nomatch hc

theorem dollarFree_columns {p : Projection} (hp : p.DollarFree) {a : SelectionStep}
    (ha : ∀ name ∈ a.names, Text.DollarFree name) :
    ∀ column ∈ a.columns p, Text.DollarFree column := by
  have hresolved : ∀ column ∈ a.names.map p.resolve, Text.DollarFree column := by
    intro column hcolumn
    obtain ⟨name, hname, rfl⟩ := List.mem_map.mp hcolumn
    exact hp.resolve (ha name hname)
  cases a with
  | restrict c => exact ha
  | _ => exact hresolved

end SelectionStep

namespace QueryShape

/-- The name that a shape brings has no dollar sign. -/
def DollarFree : QueryShape → Prop
  | byId idField _ => Text.DollarFree idField
  | rows | count | page .. | first => True

/-- The arguments of a query of the shape, when the conditions bind `values`. -/
def binds (values : List Arg) : QueryShape → List Arg
  | byId _ id => [id]
  | rows | count | page .. | first => values

end QueryShape

namespace Selection

open Clause Text

theorem dollarFree_orderEntry {column : String} (hcolumn : DollarFree column) (key : SortKey) :
    DollarFree (orderEntry column key) := by
  have hdirection : DollarFree key.direction.sql := by cases key.direction <;> decide
  exact (hcolumn.append (by decide)).append hdirection

/-- The ORDER BY clause is empty, or lists the entries of one of the two orders. -/
theorem orderClause_cases (s : Selection) : s.orderClause = "" ∨
    ∃ entries, (entries = s.requestedEntries ∨ entries = s.defaultEntries) ∧
      s.orderClause = " ORDER BY " ++ String.intercalate ", " entries := by
  by_cases hrequested : s.requestedEntries = []
  · by_cases hdefault : s.defaultOrder = []
    · exact .inl (by rw [orderClause_of_not_requested hrequested, if_pos hdefault])
    · exact .inr ⟨_, .inr rfl, by rw [orderClause_of_not_requested hrequested, if_neg hdefault]⟩
  · exact .inr ⟨_, .inl rfl, orderClause_of_requested hrequested⟩

section Order

variable {s : Selection} (hp : s.projection.DollarFree)
  (ho : ∀ key ∈ s.defaultOrder, DollarFree key.name)
include hp

/-- A requested key is a column of the projection or left out, whatever its name. -/
theorem dollarFree_requestedEntries : ∀ e ∈ s.requestedEntries, DollarFree e := by
  intro e he
  obtain ⟨key, -, hkey⟩ := List.mem_filterMap.mp he
  obtain ⟨column, hcolumn, rfl⟩ := Option.map_eq_some_iff.mp hkey
  exact dollarFree_orderEntry (hp.resolve? hcolumn) key

include ho

theorem dollarFree_defaultEntries : ∀ e ∈ s.defaultEntries, DollarFree e := by
  intro e he
  obtain ⟨key, hkey, rfl⟩ := List.mem_map.mp he
  exact dollarFree_orderEntry (hp.resolve (ho key hkey)) key

theorem dollarFree_orderClause : DollarFree s.orderClause := by
  rcases orderClause_cases s with hnone | ⟨entries, hentries, hsome⟩
  · rw [hnone]
    decide
  · rw [hsome]
    refine DollarFree.append (by decide) (dollarFree_intercalate (by decide) ?_)
    rcases hentries with rfl | rfl
    · exact dollarFree_requestedEntries hp
    · exact dollarFree_defaultEntries hp ho

end Order

theorem plain_conjoined {cs : List Condition} (h : ∀ c ∈ cs, c.DollarFree) :
    (Condition.conjoined cs).Plain ∧ (Condition.conjoined cs).Detached := by
  induction cs with
  | nil => exact ⟨plain_text (by decide), by simp [Condition.conjoined, Detached, text, NoDigitAhead]⟩
  | cons c rest ih =>
    rw [List.forall_mem_cons] at h
    obtain ⟨hrest, hdetached⟩ := ih h.2
    refine ⟨Plain.text_append (by decide)
      (Plain.append hrest hdetached (Condition.plain_clause c h.1)), ?_⟩
    exact detached_text_append (by simp [NoDigitAhead]) (by simp)

theorem plain_filterClause {s : Selection} (h : ∀ c ∈ s.conditions, c.DollarFree) :
    s.filterClause.Plain := by
  unfold filterClause
  cases hcs : s.conditions with
  | nil => exact plain_text (by decide)
  | cons c rest =>
    rw [hcs, List.forall_mem_cons] at h
    obtain ⟨hrest, hdetached⟩ := plain_conjoined h.2
    exact Plain.text_append (by decide)
      (Plain.append hrest hdetached (Condition.plain_clause c h.1))

theorem dollarFree_conditions {s : Selection} (hp : s.projection.DollarFree)
    {asked : List SelectionStep} (ha : ∀ a ∈ asked, ∀ name ∈ a.names, DollarFree name) :
    ∀ c ∈ asked.filterMap (SelectionStep.condition? s.projection), c.DollarFree := by
  intro c hc
  obtain ⟨a, hmem, hcondition⟩ := List.mem_filterMap.mp hc
  rw [Condition.DollarFree, SelectionStep.columns_condition? hcondition]
  exact SelectionStep.dollarFree_columns hp (ha a hmem)

theorem dollarFree_window (w : PageWindow) : DollarFree w.sql :=
  (((show DollarFree " LIMIT " by decide).append (dollarFree_toString w.limit)).append
    (show DollarFree " OFFSET " by decide)).append (dollarFree_toString w.offset)

theorem noDigitAhead_window (w : PageWindow) : NoDigitAhead w.sql.toList := by
  show NoDigitAhead (" LIMIT " ++ toString w.limit ++ " OFFSET " ++ toString w.offset).toList
  simp [NoDigitAhead]

theorem noDigitAhead_orderClause (s : Selection) : NoDigitAhead s.orderClause.toList := by
  rcases orderClause_cases s with hnone | ⟨entries, -, hsome⟩
  · simp [hnone, NoDigitAhead]
  · simp [hsome, NoDigitAhead]

section Layout

variable {s : Selection} (hp : s.projection.DollarFree)
  (ho : ∀ key ∈ s.defaultOrder, DollarFree key.name) (hc : ∀ c ∈ s.conditions, c.DollarFree)
include hp

theorem dollarFree_selectFrom : DollarFree
    ("SELECT " ++ s.projection.selectList ++ " FROM " ++ s.projection.fromClause) :=
  (((show DollarFree "SELECT " by decide).append hp.selectList).append
    (show DollarFree " FROM " by decide)).append hp.fromClause

include ho hc

theorem plain_rowsLayout : s.rowsLayout.Plain :=
  Plain.text_append (dollarFree_selectFrom hp)
    (Plain.append (plain_text (dollarFree_orderClause hp ho)) (noDigitAhead_orderClause s)
      (plain_filterClause hc))

theorem plain_layout {shape : QueryShape} (hshape : shape.DollarFree) :
    (s.layout shape).Plain := by
  have hrows := plain_rowsLayout hp ho hc
  cases shape with
  | rows => exact hrows
  | count =>
    exact Plain.text_append ((show DollarFree "SELECT COUNT(*) FROM " by decide).append
      hp.fromClause) (plain_filterClause hc)
  | page page pageSize =>
    exact Plain.append (plain_text (dollarFree_window _)) (noDigitAhead_window _) hrows
  | first =>
    exact Plain.append (plain_text (by decide)) (by simp [Detached, text, NoDigitAhead]) hrows
  | byId idField id =>
    refine Plain.text_append ?_ (plain_slot id)
    exact (((dollarFree_selectFrom hp).append (by decide)).append (hp.resolve hshape)).append
      (by decide)

end Layout

theorem argCount_eq (s : Selection) :
    s.argCount = (s.conditions.flatMap Condition.values).length := by
  unfold argCount
  induction s.conditions with
  | nil => rfl
  | cons c rest ih =>
    rw [List.foldr_cons, ih, List.flatMap_cons, List.length_append, ← Condition.slotCount_clause]
    rfl

theorem args_layout (s : Selection) (shape : QueryShape) :
    (s.layout shape).args = shape.binds (s.conditions.flatMap Condition.values) := by
  cases shape <;> simp [layout, rowsLayout, args_filterClause, QueryShape.binds]

theorem args_query (s : Selection) (shape : QueryShape) :
    (s.query shape).args = shape.binds (s.conditions.flatMap Condition.values) := by
  rw [query_eq, args_layout]

theorem values_steps (p : Projection) (defaultOrder : List SortKey)
    (asked : List SelectionStep) :
    ((ofProjection p defaultOrder).steps asked).conditions.flatMap Condition.values =
      asked.flatMap SelectionStep.values := by
  rw [conditions_steps]
  show (asked.filterMap (SelectionStep.condition? p)).flatMap Condition.values = _
  induction asked with
  | nil => rfl
  | cons a rest ih =>
    rw [List.flatMap_cons, ← ih, ← SelectionStep.values_condition? p a, List.filterMap_cons]
    cases a.condition? p with
    | none => rfl
    | some c => simp

end Selection

/-- The query binds `values`, and the numbers of its placeholders run from `start` on, one for each
value. -/
structure Query.Aligned (q : Query) (start : Nat) (values : List Arg) : Prop where
  args : q.args = values
  numerals : Text.numerals q.sql.toList =
    (List.range' start values.length).map (Nat.toDigits 10)

theorem Clause.Plain.aligned {c : Clause} (h : c.Plain) (start : Nat) :
    Query.Aligned ⟨c.written start, c.args⟩ start c.args :=
  ⟨rfl, by rw [h.numerals_written, ← c.length_args]⟩

namespace Selection

/-- Whatever the projection, the sort orders and the steps, when no name that the program brings has
a dollar sign: the arguments are the values of the steps in order, in every query, and the
placeholders are numbered without a gap, each number once. The text of the WHERE clause depends on
its start in the numbers only. -/
theorem placeholders_aligned {schema table tableAlias : String} (hschema : Text.DollarFree schema)
    (htable : Text.DollarFree table) (halias : Text.DollarFree tableAlias)
    {declared : List ProjectionStep}
    (hdeclared : ∀ d ∈ declared, ∀ t ∈ d.texts, Text.DollarFree t)
    {defaultOrder : List SortKey} (horder : ∀ key ∈ defaultOrder, Text.DollarFree key.name)
    {asked : List SelectionStep} (hasked : ∀ a ∈ asked, ∀ name ∈ a.names, Text.DollarFree name) :
    let s := (ofProjection ((Projection.ofTable schema table tableAlias).steps declared)
      defaultOrder).steps asked
    let values := asked.flatMap SelectionStep.values
    s.argCount = values.length ∧
      (∀ start, (s.whereClause start).Aligned start values) ∧
      (∀ first second, Text.unnumbered false (s.whereClause first).sql.toList =
        Text.unnumbered false (s.whereClause second).sql.toList) ∧
      ∀ shape : QueryShape, shape.DollarFree → (s.query shape).Aligned 1 (shape.binds values) := by
  intro s values
  have hprojection : s.projection.DollarFree := by
    rw [projection_steps]
    exact (Projection.dollarFree_ofTable hschema htable halias).steps hdeclared
  have hdefault : ∀ key ∈ s.defaultOrder, Text.DollarFree key.name := by
    rw [defaultOrder_steps]
    exact horder
  have hconditions : ∀ c ∈ s.conditions, c.DollarFree := by
    rw [conditions_steps, ← projection_steps _ asked]
    exact dollarFree_conditions hprojection hasked
  have hvalues : s.conditions.flatMap Condition.values = values := values_steps _ _ _
  have hfilter := plain_filterClause hconditions
  refine ⟨by rw [argCount_eq, hvalues], fun start => ?_, fun first second => ?_,
    fun shape hshape => ?_⟩
  · rw [whereClause_eq, ← hvalues, ← args_filterClause]
    exact hfilter.aligned start
  · simp only [whereClause_eq, hfilter.unnumbered_written]
  · rw [query_eq, ← hvalues, ← args_layout]
    exact (plain_layout hprojection hdefault hconditions hshape).aligned 1

/-- Numbers of more than one digit, groups in groups, and dollar signs in a value and in a key of a
client. -/
theorem placeholders_aligned_nested :
    let s := (ofProjection ((Projection.ofTable "public" "documents" "d").steps
        [.select "id" "id", .join "public" "categories" "c" .left "c.id = d.category_id",
          .selectAs "name" "category"]) [⟨"id", .asc⟩]).steps
      [.among "id" [.int 3, .text "$2"],
        .restrict (.anyOf (.compare "d.title" .gt (.value (.text "$1")))
          [.anyOf (.isNull "d.tag") [.contains "c.name" "100%"]]),
        .orderedBy [⟨"$9", .desc⟩]]
    let values : List Arg := [.value (.int 3), .value (.text "$2"), .value (.text "$1"),
      .value (.text "%100\\%%")]
    (s.whereClause 8).args = values ∧
      Text.numerals (s.whereClause 8).sql.toList = [['8'], ['9'], ['1', '0'], ['1', '1']] ∧
      (s.query (.page 2 10)).args = values ∧
      Text.numerals (s.query (.page 2 10)).sql.toList = [['1'], ['2'], ['3'], ['4']] := by
  intro s values
  obtain ⟨hfilter, -, hquery⟩ : (∀ start, (s.whereClause start).Aligned start values) ∧ _ ∧ _ :=
    (placeholders_aligned (by decide) (by decide) (by decide) (by decide) (by decide)
      (by decide)).2
  exact ⟨(hfilter 8).args, (hfilter 8).numerals, (hquery (.page 2 10) trivial).args,
    (hquery (.page 2 10) trivial).numerals⟩

end Selection

end PagedQuery
