/-! Errors of configuration: it cannot be loaded, or what was loaded is not valid. -/

namespace PagedQuery

/-- Why configuration could not be loaded. -/
inductive LoadFailure where
  /-- A file that has to exist does not. -/
  | missingFile (path : String)
  /-- A file is not in the expected format. -/
  | malformed (path : String)
  /-- A setting has a value that its type does not take. -/
  | badValue (setting : String)
deriving DecidableEq, Repr

def LoadFailure.message : LoadFailure → String
  | missingFile path => s!"configuration file \"{path}\" not found"
  | malformed path => s!"configuration file \"{path}\" cannot be read"
  | badValue setting => s!"invalid value for setting {setting}"

inductive ConfigError where
  /-- The sources cannot be read or do not fit the settings. -/
  | unreadable (cause : LoadFailure)
  /-- A setting that must not be empty is. -/
  | missing (field context : String)
  /-- A setting has a value that is not allowed. -/
  | invalid (field value reason : String)
deriving DecidableEq, Repr

def ConfigError.message : ConfigError → String
  | unreadable cause => s!"Failed to load configuration: {cause.message}"
  | missing field context =>
    s!"Missing required configuration field: {field} in {context}"
  | invalid field value reason =>
    "Invalid value for " ++ field ++ ": '" ++ value ++ "': " ++ reason

end PagedQuery
