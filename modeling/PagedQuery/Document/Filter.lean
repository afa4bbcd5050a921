import PagedQuery.Selection.Step
import PagedQuery.Timestamp

/-! Filters on lists of documents; what is not set does not restrict the list. -/

namespace PagedQuery.Document

/-- Values that documents must have. `category` set to none selects documents without a category. -/
structure Filter where
  status : Option String := none
  tag : Option String := none
  contentType : Option String := none
  /-- A text that the title holds. -/
  title : Option String := none
  categoryIds : List Uuid := []
  category : Option (Option Uuid) := none
  /-- The earliest time of creation. -/
  createdAfter : Option Timestamp := none
  /-- The first time of creation that is too late. -/
  createdBefore : Option Timestamp := none
deriving DecidableEq, Repr, Inhabited

/-- How the filter narrows a selection of documents, in order. -/
def Filter.steps (f : Filter) : List SelectionStep :=
  [.equalTo "status" (f.status.map .text), .equalTo "tag" (f.tag.map .text),
    .equalTo "content_type" (f.contentType.map .text), .holding "title" f.title,
    .among "category_id" (f.categoryIds.map .uuid),
    .compared "created_at" .gte (f.createdAfter.map .timestamp),
    .compared "created_at" .lt (f.createdBefore.map .timestamp)] ++
  match f.category with
  | some category => [.equalOrNull "category_id" (category.map .uuid)]
  | none => []

end PagedQuery.Document
