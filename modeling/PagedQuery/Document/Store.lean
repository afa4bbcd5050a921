import PagedQuery.Document
import PagedQuery.Document.Error
import PagedQuery.Document.Filter
import PagedQuery.Page
import PagedQuery.Storage.Queries
import PagedQuery.Storage.Transaction

/-!
The store of documents: listing them by pages, fetching, storing, changing and removing one. Each
operation is a dialogue with the database.
-/

namespace PagedQuery.Document.Store

def searchNames : List String := ["title", "category_name"]

def insertSql : String :=
  "INSERT INTO public.documents (title, status, tag, content_type, checksum, category_id) " ++
    "VALUES ($1, $2, $3, $4, $5, $6) RETURNING id"

def setStatusSql : String :=
  "UPDATE public.documents SET status = $1, updated_at = NOW() WHERE id = $2"

def removeSql : String := "DELETE FROM public.documents WHERE id = $1"

/-- All documents, the newest first. -/
def everything : Selection := .ofProjection Document.projection [.desc "created_at"]

/-- The documents that a filter and the search text of a request leave, in its order. -/
def listed (r : PageRequest) (f : Filter) : Selection :=
  everything.steps (f.steps ++ [.searching r.search searchNames, .orderedBy r.order])

/-- What is reported when a page holds no documents. -/
def emptyPageEvent (total : Int64) (r : PageRequest) : LogEvent :=
  .debug .documents "No documents on requested page"
    [("total", .number total.toInt), ("page", .number r.number.toInt)]

def fetchPage (r : PageRequest) (s : Selection) :
    Dialogue (Except StorageError (List Document)) := do
  Dialogue.tellAll (s.queryEvents (.page r.number r.size))
  Dialogue.allRows Document.ofRow (s.query (.page r.number r.size))

/-- The page that a request in bounds asks for, out of `total` documents: nothing is fetched where
there is nothing. -/
def pageOf (r : PageRequest) (s : Selection) (total : Int64) :
    Dialogue (Except Error (Page Document)) := do
  if total = 0 || total ≤ r.offset then
    Dialogue.tell (emptyPageEvent total r)
    return .ok (.answering [] total r)
  else
    match ← fetchPage r s with
    | .error e => return .error (.storage e)
    | .ok rows => return .ok (.answering rows total r)

/-- A page of documents: they are counted first. -/
def list (bounds : PageBounds) (request : PageRequest) (f : Filter) :
    Dialogue (Except Error (Page Document)) := do
  let r := request.bounded bounds
  let s := listed r f
  match ← Dialogue.countRows s.countQuery with
  | .error e => return .error (.storage e)
  | .ok total => pageOf r s total

def fetch (id : Uuid) : Dialogue (Except Error Document) := do
  let found ← Dialogue.oneRow Document.ofRow (everything.byIdQuery "id" (.value (.uuid id)))
  return found.mapError .ofStorage

def fetchSame? (checksum : String) : Dialogue (Except Error (Option Document)) := do
  let s := everything.equalTo "checksum" (some (.text checksum))
  let found ← Dialogue.firstRow Document.ofRow s.firstQuery
  return found.mapError .storage

def insert (d : Draft) : Dialogue (Except Error Document) := do
  match ← Dialogue.oneRow (Row.single Cell.uuid) ⟨insertSql, d.args⟩ with
  | .error e => return .error (.ofStorage e)
  | .ok id => fetch id

/-- Inserts a document and reads it back, in one transaction. -/
def store (d : Draft) : Dialogue (Except Error Document) :=
  Dialogue.transaction .storage (insert d)

def changeOne (q : Query) : Dialogue (Except Error Unit) := do
  let changed ← Dialogue.changeRows q
  return (changed.map fun _ => ()).mapError .ofStorage

def setStatus (id : Uuid) (status : String) : Dialogue (Except Error Unit) :=
  changeOne ⟨setStatusSql, [.value (.text status), .value (.uuid id)]⟩

def remove (id : Uuid) : Dialogue (Except Error Unit) :=
  changeOne ⟨removeSql, [.value (.uuid id)]⟩

end PagedQuery.Document.Store
