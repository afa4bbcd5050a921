import PagedQuery.Config.Setting

/-! Environment variables as a source of configuration, and the name of the environment. -/

namespace PagedQuery

abbrev Environment := List (String × String)

namespace Environment

def get? (env : Environment) (name : String) : Option String :=
  (env.find? fun e => e.1 == name).map (·.2)

/-- The environment that the process runs in: a variable of its own, else a common one, else
development. An empty variable counts as set. -/
def name (env : Environment) : String :=
  ((env.get? "FOLIO_ENV").or (env.get? "APP_ENV")).getD "development"

/-- What the names of settings begin with, in any case. -/
def mark : String := "folio__"

/-- The characters with a dot for every pair of underscores. -/
def dotted : List Char → List Char
  | '_' :: '_' :: cs => '.' :: dotted cs
  | c :: cs => c :: dotted cs
  | [] => []

/-- The setting that a variable stands for, as a key with dots; other variables stand for none. -/
def key? (name : String) : Option String :=
  let cs := name.toList
  if (cs.take mark.length).map Char.toLower = mark.toList then
    some (String.ofList (dotted (cs.drop mark.length)))
  else none

/-- The value of a variable: a boolean, else a whole number of 64 bits, else a floating number, else
the text. -/
def value (s : String) : Setting :=
  if s.toLower = "true" then .bool true
  else if s.toLower = "false" then .bool false
  else
    match (Text.readInteger? s.toList).filter Text.fitsInt64 with
    | some n => .int n
    | none =>
      match Binary64.ofText? s.toList with
      | some x => .float x
      | none => .text s

def settings (env : Environment) : List (String × Setting) :=
  env.filterMap fun e => (key? e.1).map fun key => (key, value e.2)

end Environment

end PagedQuery
