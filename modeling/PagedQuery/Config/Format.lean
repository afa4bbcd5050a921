import PagedQuery.Config.Ini
import PagedQuery.Config.Json5
import PagedQuery.Config.Ron
import PagedQuery.Config.Toml.Document
import PagedQuery.Config.Yaml.Document
import PagedQuery.Json.Text

/-! The formats of configuration files, and the settings that a file in one of them holds. -/

namespace PagedQuery

/-- The setting that a JSON value is. A whole number past 63 bits is a floating one. -/
def Setting.ofJson : Json → Setting
  | .null => .null
  | .bool b => .bool b
  | .int n => if Text.fitsInt64 n then .int n else .float (.ofDecimal false n.natAbs 0)
  | .float x => .float x
  | .string s => .text s
  | .list items => .list (ofJsons items)
  | .object entries => .table (ofEntries entries)
where
  /-- The settings that the items of a list are. -/
  ofJsons : List Json → List Setting
    | [] => []
    | j :: js => ofJson j :: ofJsons js
  /-- The settings that the entries of an object are. -/
  ofEntries : List (String × Json) → List (String × Setting)
    | [] => []
    | (key, j) :: es => (key, ofJson j) :: ofEntries es

inductive ConfigFormat where
  | toml | json | yaml | ini | ron | json5
deriving DecidableEq, Repr

namespace ConfigFormat

def endings : List (String × ConfigFormat) :=
  [("toml", toml), ("json", json), ("yaml", yaml), ("yml", yaml), ("ini", ini),
    ("ron", ron), ("json5", json5)]

/-- The format of a file by what its name has behind the last dot. -/
def ofName? (name : String) : Option ConfigFormat :=
  let ending := (Text.split '.' name.toList).getLast?.getD []
  (endings.find? fun e => e.1.toList = ending).map (·.2)

def parse? (text : String) : ConfigFormat → Option (List (String × Setting))
  | toml => Toml.parse? text
  | json => match Json.parse? text with
    | some (.object entries) => some (Setting.ofJson.ofEntries entries)
    | _ => none
  | yaml => Yaml.parse? text
  | ini => Ini.parse? text
  | ron => Ron.parse? text
  | json5 => Json5.parse? text

end ConfigFormat

end PagedQuery
