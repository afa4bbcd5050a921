import PagedQuery.Storage.Error

/-! Errors of working with documents. -/

namespace PagedQuery.Document

inductive Error where
  /-- There is no such document. -/
  | notFound
  /-- There is a document with this checksum already. -/
  | duplicate
  /-- The database failed for another reason. -/
  | storage (e : StorageError)
deriving DecidableEq, Repr, Inhabited

namespace Error

def message : Error → String
  | notFound => "Document not found"
  | duplicate => "Document with this checksum already exists"
  | storage e => s!"Database error: {e.message}"

def ofStorage (e : StorageError) : Error := e.classify notFound duplicate storage

end Error

end PagedQuery.Document
