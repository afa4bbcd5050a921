import PagedQuery.Json.Decode
import PagedQuery.Projection
import PagedQuery.Storage.Row

/-!
Documents: their fields, how they are read from rows and JSON, and the projection of their table
joined with its categories.
-/

namespace PagedQuery

/-- A stored document with the name of its category. -/
structure Document where
  id : Uuid
  title : String
  status : String
  tag : Option String
  contentType : String
  checksum : String
  categoryId : Option Uuid
  categoryName : Option String
  createdAt : Timestamp
  updatedAt : Timestamp
deriving DecidableEq, Repr, Inhabited

/-- An optional text in JSON. -/
def Json.ofOptionalText : Option String → Json
  | some s => .string s
  | none => .null

/-- An optional identifier in JSON. -/
def Json.ofOptionalUuid (u : Option Uuid) : Json := ofOptionalText (u.map Uuid.text)

namespace Document

/-- Reads a row by column names, in the order of the fields. -/
def ofRow : Row.Reader Document := fun row => do
  let id ← Row.named Cell.uuid "id" row
  let title ← Row.named Cell.text "title" row
  let status ← Row.named Cell.text "status" row
  let tag ← Row.named (Cell.optional Cell.text) "tag" row
  let contentType ← Row.named Cell.text "content_type" row
  let checksum ← Row.named Cell.text "checksum" row
  let categoryId ← Row.named (Cell.optional Cell.uuid) "category_id" row
  let categoryName ← Row.named (Cell.optional Cell.text) "category_name" row
  let createdAt ← Row.named Cell.timestamp "created_at" row
  let updatedAt ← Row.named Cell.timestamp "updated_at" row
  return ⟨id, title, status, tag, contentType, checksum, categoryId, categoryName, createdAt,
    updatedAt⟩

def record : Json.Record Document where
  name := "Document"
  fields :=
    [.of "id" .required Json.decodeUuid fun d v => { d with id := v },
      .of "title" .required Json.decodeString fun d v => { d with title := v },
      .of "status" .required Json.decodeString fun d v => { d with status := v },
      .of "tag" .nullable (Json.decodeOption Json.decodeString) fun d v => { d with tag := v },
      .of "content_type" .required Json.decodeString fun d v => { d with contentType := v },
      .of "checksum" .required Json.decodeString fun d v => { d with checksum := v },
      .of "category_id" .nullable (Json.decodeOption Json.decodeUuid) fun d v =>
        { d with categoryId := v },
      .of "category_name" .nullable (Json.decodeOption Json.decodeString) fun d v =>
        { d with categoryName := v },
      .of "created_at" .required Json.decodeTimestamp fun d v => { d with createdAt := v },
      .of "updated_at" .required Json.decodeTimestamp fun d v => { d with updatedAt := v }]
  blank := ⟨default, "", "", none, "", "", none, none, default, default⟩

def decode : Json.Decoder Document := record.decode

def toJson (d : Document) : Json :=
  .object [("category_id", .ofOptionalUuid d.categoryId),
    ("category_name", .ofOptionalText d.categoryName), ("checksum", .string d.checksum),
    ("content_type", .string d.contentType), ("created_at", .string d.createdAt.text),
    ("id", .string d.id.text), ("status", .string d.status), ("tag", .ofOptionalText d.tag),
    ("title", .string d.title), ("updated_at", .string d.updatedAt.text)]

/-- The columns of documents, and the name of the category of each. -/
def projection : Projection :=
  Projection.ofTable "public" "documents" "d"
    |>.select "id" "id"
    |>.select "title" "title"
    |>.select "status" "status"
    |>.select "tag" "tag"
    |>.select "content_type" "content_type"
    |>.select "checksum" "checksum"
    |>.select "category_id" "category_id"
    |>.select "created_at" "created_at"
    |>.select "updated_at" "updated_at"
    |>.join "public" "categories" "c" .left "c.id = d.category_id"
    |>.selectAs "name" "category_name"

structure Draft where
  title : String
  status : String
  tag : Option String
  contentType : String
  checksum : String
  categoryId : Option Uuid
deriving DecidableEq, Repr, Inhabited

namespace Draft

def record : Json.Record Draft where
  name := "NewDocument"
  fields :=
    [.of "title" .required Json.decodeString fun d v => { d with title := v },
      .of "status" .required Json.decodeString fun d v => { d with status := v },
      .of "tag" .nullable (Json.decodeOption Json.decodeString) fun d v => { d with tag := v },
      .of "content_type" .required Json.decodeString fun d v => { d with contentType := v },
      .of "checksum" .required Json.decodeString fun d v => { d with checksum := v },
      .of "category_id" .nullable (Json.decodeOption Json.decodeUuid) fun d v =>
        { d with categoryId := v }]
  blank := ⟨"", "", none, "", "", none⟩

def decode : Json.Decoder Draft := record.decode

def toJson (d : Draft) : Json :=
  .object [("category_id", .ofOptionalUuid d.categoryId), ("checksum", .string d.checksum),
    ("content_type", .string d.contentType), ("status", .string d.status),
    ("tag", .ofOptionalText d.tag), ("title", .string d.title)]

def args (d : Draft) : List Arg :=
  [.value (.text d.title), .value (.text d.status), .ofOption .text (d.tag.map .text),
    .value (.text d.contentType), .value (.text d.checksum),
    .ofOption .uuid (d.categoryId.map .uuid)]

end Draft

end Document

end PagedQuery
