import PagedQuery.Proofs.Document.Columns
import PagedQuery.Proofs.Selection.Alignment
import PagedQuery.Proofs.Selection.Passing

/-! Which documents the WHERE clause of a list selects: those that the filter describes and that hold
the search text in the title or in the name of the category. -/

namespace PagedQuery.Document

open SearchCondition

/-- What filters and searches see of a document and its category; anything may be null. -/
structure FilterRow where
  status : Option String
  tag : Option String
  contentType : Option String
  title : Option String
  categoryId : Option Uuid
  createdAt : Option Timestamp
  categoryName : Option String

namespace FilterRow

/-- The cells by qualified columns. -/
def cells (row : FilterRow) : String → Cell
  | "d.status" => row.status.map .text
  | "d.tag" => row.tag.map .text
  | "d.content_type" => row.contentType.map .text
  | "d.title" => row.title.map .text
  | "d.category_id" => row.categoryId.map .uuid
  | "d.created_at" => row.createdAt.map .timestamp
  | "c.name" => row.categoryName.map .text
  | _ => none

theorem cells_resolve (row : FilterRow) (name : String) :
    row.cells (projection.resolve name) = row.cells ((columnNames.lookup name).getD name) :=
  congrArg row.cells (resolve_projection name)

/-- The title or the name of the category holds the search text, unless there is none or a blank
one. -/
def Answers (alike : Char → Char → Bool) (row : FilterRow) (search : Option String) : Prop :=
  ∀ needle ∈ search, ¬Text.Blank needle → (∃ title ∈ row.title, Like.Within alike needle title) ∨
    ∃ name ∈ row.categoryName, Like.Within alike needle name

end FilterRow

/-- The row meets every filter that is set. -/
structure Filter.Admits (alike : Char → Char → Bool) (f : Filter) (row : FilterRow) : Prop where
  status : ∀ s ∈ f.status, row.status = some s
  tag : ∀ s ∈ f.tag, row.tag = some s
  contentType : ∀ s ∈ f.contentType, row.contentType = some s
  title : ∀ needle ∈ f.title, ¬Text.Blank needle →
    ∃ title ∈ row.title, Like.Within alike needle title
  categoryIds : f.categoryIds = [] ∨ ∃ id ∈ f.categoryIds, row.categoryId = some id
  createdAfter : ∀ t ∈ f.createdAfter, ∃ u ∈ row.createdAt, t.inNanos ≤ u.inNanos
  createdBefore : ∀ t ∈ f.createdBefore, ∃ u ∈ row.createdAt, u.inNanos < t.inNanos
  category : ∀ c ∈ f.category, row.categoryId = c

section Columns

open SelectionStep

variable {alike : Char → Char → Bool} {cells : String → Cell} {field : String}

theorem passes_equalTo_text {column value : Option String}
    (hcolumn : cells (projection.resolve field) = column.map .text) :
    (equalTo field (value.map .text)).Passes projection (Atom.truth alike cells) ↔
      ∀ s ∈ value, column = some s := by
  have hexact : ∀ v ∈ value.map Value.text, v.Exact := by simp [Value.Exact, Value.kind]
  rw [passes_equalTo hexact, hcolumn]
  cases value <;> simp

theorem passes_holding_text {column text : Option String}
    (hcolumn : cells (projection.resolve field) = column.map .text) :
    (holding field text).Passes projection (Atom.truth alike cells) ↔
      ∀ needle ∈ text, ¬Text.Blank needle → ∃ t ∈ column, Like.Within alike needle t := by
  rw [passes_holding, hcolumn]
  simp

theorem passes_among_uuid {column : Option Uuid} {ids : List Uuid}
    (hcolumn : cells (projection.resolve field) = column.map .uuid) :
    (among field (ids.map .uuid)).Passes projection (Atom.truth alike cells) ↔
      ids = [] ∨ ∃ id ∈ ids, column = some id := by
  have hexact : ∀ v ∈ ids.map Value.uuid, v.Exact := by simp [Value.Exact, Value.kind]
  rw [passes_among hexact, hcolumn]
  simp

theorem passes_equalOrNull_uuid {column value : Option Uuid}
    (hcolumn : cells (projection.resolve field) = column.map .uuid) :
    (equalOrNull field (value.map .uuid)).Passes projection (Atom.truth alike cells) ↔
      column = value := by
  have hexact : ∀ v ∈ value.map Value.uuid, v.Exact := by simp [Value.Exact, Value.kind]
  rw [passes_equalOrNull hexact, hcolumn]
  cases column <;> cases value <;> simp

theorem passes_compared_timestamp {op : Comparison} {column instant : Option Timestamp}
    (hcolumn : cells (projection.resolve field) = column.map .timestamp) :
    (compared field op (instant.map .timestamp)).Passes projection (Atom.truth alike cells) ↔
      ∀ t ∈ instant, ∃ u ∈ column, op.accepts (compare u.inNanos t.inNanos) := by
  rw [passes_compared, hcolumn]
  simp

end Columns

/-- The steps of a filter; the one of the category is there only when it is set. -/
theorem Filter.steps_eq (f : Filter) : f.steps =
    [.equalTo "status" (f.status.map .text), .equalTo "tag" (f.tag.map .text),
      .equalTo "content_type" (f.contentType.map .text), .holding "title" f.title,
      .among "category_id" (f.categoryIds.map .uuid),
      .compared "created_at" .gte (f.createdAfter.map .timestamp),
      .compared "created_at" .lt (f.createdBefore.map .timestamp)] ++
    f.category.toList.map fun c => .equalOrNull "category_id" (c.map .uuid) := by
  rw [Filter.steps]
  cases f.category <;> rfl

section Rows

variable {alike : Char → Char → Bool} {f : Filter} {row : FilterRow}

/-- A row passes the steps of a filter when the filter admits it. -/
theorem passes_steps_iff :
    (∀ a ∈ f.steps, a.Passes projection (Atom.truth alike row.cells)) ↔ f.Admits alike row := by
  have hstatus : row.cells (projection.resolve "status") = row.status.map .text :=
    row.cells_resolve "status"
  have htag : row.cells (projection.resolve "tag") = row.tag.map .text :=
    row.cells_resolve "tag"
  have hcontentType : row.cells (projection.resolve "content_type") = row.contentType.map .text :=
    row.cells_resolve "content_type"
  have htitle : row.cells (projection.resolve "title") = row.title.map .text :=
    row.cells_resolve "title"
  have hcategoryId : row.cells (projection.resolve "category_id") = row.categoryId.map .uuid :=
    row.cells_resolve "category_id"
  have hcreatedAt : row.cells (projection.resolve "created_at") = row.createdAt.map .timestamp :=
    row.cells_resolve "created_at"
  simp only [Filter.steps_eq, List.forall_mem_append, List.forall_mem_cons, List.forall_mem_map,
    Option.mem_toList, passes_equalTo_text hstatus, passes_equalTo_text htag,
    passes_equalTo_text hcontentType, passes_holding_text htitle, passes_among_uuid hcategoryId,
    passes_compared_timestamp hcreatedAt, passes_equalOrNull_uuid hcategoryId,
    Comparison.accepts_gte, Comparison.accepts_lt]
  constructor
  · rintro ⟨⟨hs, ht, hc, hl, hi, ha, hb, -⟩, hn⟩
    exact ⟨hs, ht, hc, hl, hi, ha, hb, hn⟩
  · rintro ⟨hs, ht, hc, hl, hi, ha, hb, hn⟩
    exact ⟨⟨hs, ht, hc, hl, hi, ha, hb, List.forall_mem_nil _⟩, hn⟩

/-- A row passes the search when it answers it. -/
theorem passes_search_iff {search : Option String} :
    (SelectionStep.searching search Store.searchNames).Passes projection
      (Atom.truth alike row.cells) ↔ row.Answers alike search := by
  have htitle : row.cells (projection.resolve "title") = row.title.map .text :=
    row.cells_resolve "title"
  have hname : row.cells (projection.resolve "category_name") = row.categoryName.map .text :=
    row.cells_resolve "category_name"
  rw [Store.searchNames, SelectionStep.passes_searching]
  simp [htitle, hname, FilterRow.Answers]

end Rows

namespace Store

/-- The columns of the conditions of a list need no quotes. -/
theorem named_listed (r : PageRequest) (f : Filter) :
    ∀ c ∈ (listed r f).conditions, c.Named := by
  have hname : ∀ name ∈ columnNames.map (·.1), IsName (projection.resolve name) := by
    intro name hname
    rw [resolve_projection]
    revert name
    decide
  have hcolumns : ∀ a ∈ f.steps ++ [.searching r.search searchNames, .orderedBy r.order],
      ∀ column ∈ a.columns projection, IsName column := by
    simp only [Filter.steps_eq, List.forall_mem_append, List.forall_mem_cons, List.forall_mem_map]
    simp [SelectionStep.columns, SelectionStep.names, searchNames, hname, columnNames]
  intro c hc
  rw [listed, Selection.conditions_steps] at hc
  obtain ⟨a, ha, hcondition⟩ := List.mem_filterMap.mp hc
  rw [Condition.Named, SelectionStep.columns_condition? hcondition]
  exact hcolumns a ha

/-- Whatever the filter, the request and the row, and whichever characters are the same in any case:
the WHERE clause of the list has one truth value on the row, and it is true exactly when the filter
admits the row and the row answers the search of the request. -/
theorem listed_selects (f : Filter) (r : PageRequest) (alike : Char → Char → Bool) (row : FilterRow)
    (start : Nat) : ∃ t,
      ((listed r f).whereClause start).Evaluates start (Atom.truth alike row.cells) t ∧
      (∀ u, ((listed r f).whereClause start).Evaluates start (Atom.truth alike row.cells) u →
        u = t) ∧
      (t = .true ↔ f.Admits alike row ∧ row.Answers alike r.search) := by
  have hvalue := Selection.evaluates_whereClause (named_listed r f) start
    (Atom.truth alike row.cells)
  refine ⟨_, hvalue, fun u hu => hvalue.unique hu, ?_⟩
  rw [listed, SelectionStep.holdsAll_steps rfl, List.forall_mem_append, List.forall_mem_cons,
    List.forall_mem_singleton]
  apply and_congr passes_steps_iff
  rw [and_iff_left SelectionStep.passes_orderedBy]
  exact passes_search_iff

end Store

end PagedQuery.Document
