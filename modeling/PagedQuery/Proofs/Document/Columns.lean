import PagedQuery.Document.Store
import PagedQuery.Proofs.Projection.Order

/-! The columns of the documents by their logical names, their order, and the query for one
document. -/

namespace PagedQuery.Document

/-- The logical names of the columns, the last declared first. -/
def columnNames : List (String × String) :=
  [("category_name", "c.name"), ("updated_at", "d.updated_at"), ("created_at", "d.created_at"),
    ("category_id", "d.category_id"), ("checksum", "d.checksum"),
    ("content_type", "d.content_type"), ("tag", "d.tag"), ("status", "d.status"),
    ("title", "d.title"), ("id", "d.id")]

theorem resolves_projection : projection.Resolves columnNames := by
  have hbase := Projection.resolves_ofTable "public" "documents" "d"
  have hfirst := (((hbase.put "id" "id" none).put "title" "title" none).put "status" "status"
    none).put "tag" "tag" none
  have hdocuments := ((((hfirst.put "content_type" "content_type" none).put "checksum" "checksum"
    none).put "category_id" "category_id" none).put "created_at" "created_at" none).put
      "updated_at" "updated_at" none
  have hjoined := hdocuments.join "public" "categories" "c" .left "c.id = d.category_id"
  exact hjoined.put "name" "category_name" (some "category_name")

/-- A logical name is resolved by the table of names. -/
theorem resolve_projection (name : String) :
    projection.resolve name = (columnNames.lookup name).getD name := by
  rw [Projection.resolve, resolves_projection.resolve?]

/-- The declarations of the projection. -/
def columnSteps : List ProjectionStep :=
  [.select "id" "id", .select "title" "title", .select "status" "status", .select "tag" "tag",
    .select "content_type" "content_type", .select "checksum" "checksum",
    .select "category_id" "category_id", .select "created_at" "created_at",
    .select "updated_at" "updated_at",
    .join "public" "categories" "c" .left "c.id = d.category_id", .selectAs "name" "category_name"]

theorem declares_projection : projection.Declares "d" columnSteps :=
  (Projection.declares_ofTable "public" "documents" "d").steps columnSteps

theorem names_projection : projection.names = ["id", "title", "status", "tag", "content_type",
    "checksum", "category_id", "created_at", "updated_at", "category_name"] := by
  rw [declares_projection.names]
  decide

/-- The identifier is selected first. -/
theorem selectList_projection : ∃ rest, projection.selectList = "d.id" ++ rest := by
  have hvalues := declares_projection.indexed.forall₂_get?
  have hkeys : projection.columns.keys = _ := names_projection
  rw [hkeys] at hvalues
  obtain ⟨c, cs, hid, -, hcs⟩ := List.forall₂_cons_left_iff.mp hvalues
  have hresolve : projection.resolve? "id" = some "d.id" := resolves_projection.resolve? "id"
  rw [Projection.resolve?, hid, Option.map_some, Option.some.injEq] at hresolve
  rw [Projection.selectList, hcs, List.map_cons, Projection.sql_eq, hresolve]
  cases cs with
  | nil => exact ⟨_, String.intercalate_singleton⟩
  | cons d cs =>
    rw [List.map_cons, String.intercalate_cons_cons, String.append_assoc, String.append_assoc]
    exact ⟨_, rfl⟩

namespace Store

/-- The text of the query for one document. -/
def fetchSql : String :=
  "SELECT " ++ projection.selectList ++ " FROM " ++ projection.fromClause ++ " WHERE d.id = $1"

theorem byIdQuery_everything (id : Arg) : everything.byIdQuery "id" id = ⟨fetchSql, [id]⟩ := by
  have hid : everything.projection.resolve "id" = "d.id" := resolve_projection "id"
  have hwhere : " WHERE " ++ "d.id" ++ " = $1" = " WHERE d.id = $1" := by decide
  rw [Selection.byIdQuery, hid, fetchSql, ← hwhere]
  simp only [String.append_assoc]
  rfl

end Store

end PagedQuery.Document
