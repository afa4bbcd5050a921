import PagedQuery.Config.Environment
import PagedQuery.Config.Format
import PagedQuery.Config.Service
import PagedQuery.Log

/-!
Loading configuration: built-in defaults, then files, then environment variables, each laid over
the one before; the result is read into its type and validated.
-/

namespace PagedQuery

/-- A place that a file of settings may come from: its path, its text if it exists, and whether it
has to. -/
structure ConfigFile where
  path : String
  content : Option String
  required : Bool

/-- What loading gives, and the events reported on the way. -/
structure Loaded where
  result : Except ConfigError ServiceConfig
  events : List LogEvent

namespace ServiceConfig

/-- A section of the settings, as a table or as the list of its fields; empty where it is
missing. -/
def readSection (root : Setting) (key : String) : Except ConfigError Setting :=
  match root.get? key with
  | none => .ok .empty
  | some (.table es) => .ok (.table es)
  | some (.list ss) => .ok (.list ss)
  | some _ => .error (.unreadable (.badValue key))

/-- A text field of a section, or the default where it is missing. -/
def readText (fields : Setting) (place : Nat) (key : String) (default : String) :
    Except ConfigError String :=
  match fields.field? place key with
  | none => .ok default
  | some s => match s.asText? with
    | some t => .ok t
    | none => .error (.unreadable (.badValue key))

/-- A number field of a section up to `limit`, or the default where it is missing. -/
def readNat (fields : Setting) (place : Nat) (key : String) (limit default : Nat) :
    Except ConfigError Nat :=
  match fields.field? place key with
  | none => .ok default
  | some s => match s.asNat? limit with
    | some n => .ok n
    | none => .error (.unreadable (.badValue key))

/-- The configuration that settings describe; what they leave out keeps its default. -/
def ofSettings (root : Setting) : Except ConfigError ServiceConfig := do
  let db : DatabaseConfig := {}
  let pages : PageBounds := {}
  let database ← readSection root "database"
  let url ← readText database 0 "url" db.url
  let connections ←
    readNat database 1 "max_connections" (UInt32.size - 1) db.maxConnections.toNat
  let timeout ← readNat database 2 "acquire_timeout_seconds" (UInt64.size - 1)
    db.acquireTimeoutSeconds.toNat
  let pagination ← readSection root "pagination"
  let pageSize ←
    readNat pagination 0 "default_page_size" (UInt32.size - 1) pages.defaultSize.toNat
  let maxSize ← readNat pagination 1 "max_page_size" (UInt32.size - 1) pages.maxSize.toNat
  return {
    database := ⟨url, UInt32.ofNat connections, UInt64.ofNat timeout⟩
    pagination := ⟨UInt32.ofNat pageSize, UInt32.ofNat maxSize⟩ }

/-- The settings of a file; a file that does not have to exist may be missing. -/
def fileSettings (f : ConfigFile) : Except ConfigError (List (String × Setting)) :=
  match f.content with
  | none => if f.required then .error (.unreadable (.missingFile f.path)) else .ok []
  | some text => match (ConfigFormat.ofName? f.path).bind (·.parse? text) with
    | some es => .ok es
    | none => .error (.unreadable (.malformed f.path))

/-- The settings of files and then of environment variables, each laid over those before. -/
def layered (files : List ConfigFile) (env : Environment) : Except ConfigError Setting := do
  let sources ← files.mapM fileSettings
  return (sources ++ [env.settings]).foldl Setting.layer .empty

/-- The configuration that files and environment variables give, if it is valid. -/
def ofSources (files : List ConfigFile) (env : Environment) :
    Except ConfigError ServiceConfig := do
  let root ← layered files env
  let c ← ofSettings root
  c.check
  return c

/-- What is reported once configuration is loaded. -/
def loadedEvent (c : ServiceConfig) : LogEvent :=
  .info .config "Configuration loaded successfully"
    [("default_page_size", .number c.pagination.defaultSize.toNat),
      ("max_page_size", .number c.pagination.maxSize.toNat),
      ("max_connections", .number c.database.maxConnections.toNat)]

/-- A load announced by `start`. -/
def loadWith (start : String) (files : List ConfigFile) (env : Environment) : Loaded :=
  let result := ofSources files env
  ⟨result, .debug .config start [] ::
    match result with
    | .ok c => [c.loadedEvent]
    | .error _ => []⟩

/-- Loads one file, which has to exist, and environment variables. -/
def loadFile (path : String) (content : Option String) (env : Environment) : Loaded :=
  loadWith s!"Loading configuration from {path}" [⟨path, content, true⟩] env

def directory : String := "config"

/-- A file of the configuration directory, or where it does not exist the first one that has its
name with the ending of a format behind it. `read` gives the text of a file by its name. -/
def fileNamed (read : String → Option String) (name : String) : ConfigFile :=
  let names := name :: ConfigFormat.endings.map fun e => name ++ "." ++ e.1
  let found := (names.find? fun n => (read n).isSome).getD name
  ⟨directory ++ "/" ++ found, read found, false⟩

/-- Loads the base file and the file of the environment from the configuration directory, neither of
which has to exist, and environment variables. -/
def load (read : String → Option String) (env : Environment) : Loaded :=
  loadWith s!"Loading configuration for environment '{env.name}' from directory: {directory}"
    [fileNamed read "folio.toml", fileNamed read s!"folio.{env.name}.toml"] env

end ServiceConfig

end PagedQuery
