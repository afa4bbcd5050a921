import PagedQuery.Config.Database
import PagedQuery.Page.Bounds

/-! The whole configuration of a service. -/

namespace PagedQuery

structure ServiceConfig where
  database : DatabaseConfig := {}
  pagination : PageBounds := {}
deriving DecidableEq, Repr, Inhabited

namespace ServiceConfig

/-- Both parts are valid; the database comes first. -/
def check (c : ServiceConfig) : Except ConfigError Unit := do
  c.database.check
  c.pagination.check

def record : Json.Record ServiceConfig where
  name := "FolioConfig"
  fields :=
    [.of "database" .defaulted DatabaseConfig.decode fun c v => { c with database := v },
      .of "pagination" .defaulted PageBounds.decode fun c v => { c with pagination := v }]
  blank := {}

def decode : Json.Decoder ServiceConfig := record.decode

def toJson (c : ServiceConfig) : Json :=
  .object [("database", c.database.toJson), ("pagination", c.pagination.toJson)]

end ServiceConfig

end PagedQuery
