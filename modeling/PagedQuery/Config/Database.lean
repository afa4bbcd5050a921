import PagedQuery.Config.Error
import PagedQuery.Json.Decode

/-! Where the database is and how many connections are kept to it. -/

namespace PagedQuery

structure DatabaseConfig where
  url : String := "postgresql://localhost/folio_development"
  maxConnections : UInt32 := 10
  acquireTimeoutSeconds : UInt64 := 30
deriving DecidableEq, Repr, Inhabited

namespace DatabaseConfig

/-- There is an address, and at least one connection. The first rule that fails is the error. -/
def check (c : DatabaseConfig) : Except ConfigError Unit :=
  if c.url.isEmpty then .error (.missing "database.url" "database configuration")
  else if c.maxConnections = 0 then
    .error (.invalid "database.max_connections" "0" "pool size must be greater than 0")
  else .ok ()

def record : Json.Record DatabaseConfig where
  name := "DatabaseConfig"
  fields :=
    [.of "url" .defaulted Json.decodeString fun c v => { c with url := v },
      .of "max_connections" .defaulted Json.decodeUInt32 fun c v => { c with maxConnections := v },
      .of "acquire_timeout_seconds" .defaulted Json.decodeUInt64 fun c v =>
        { c with acquireTimeoutSeconds := v }]
  blank := {}

def decode : Json.Decoder DatabaseConfig := record.decode

def toJson (c : DatabaseConfig) : Json :=
  .object [("acquire_timeout_seconds", .int c.acquireTimeoutSeconds.toNat),
    ("max_connections", .int c.maxConnections.toNat), ("url", .string c.url)]

end DatabaseConfig

end PagedQuery
