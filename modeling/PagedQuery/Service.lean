import PagedQuery.Config.Error
import PagedQuery.Document.Error

/-! Errors of a service as a whole: of its configuration, its database and its documents. -/

namespace PagedQuery

inductive ServiceError where
  | configuration (e : ConfigError)
  | database (e : StorageError)
  | document (e : Document.Error)
deriving DecidableEq, Repr

def ServiceError.message : ServiceError → String
  | configuration e => s!"Configuration error: {e.message}"
  | database e => s!"Database error: {e.message}"
  | document e => s!"Document error: {e.message}"

end PagedQuery
