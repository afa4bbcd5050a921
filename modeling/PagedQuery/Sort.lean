import PagedQuery.Json.Decode
import PagedQuery.Text.Blank
import PagedQuery.Text.Split

/-!
Sort orders: keys with directions, and their text form `title,-created_at`, where a dash in front of
a name means descending.
-/

namespace PagedQuery

inductive Direction where
  | asc | desc
deriving DecidableEq, Repr, Inhabited

namespace Direction

def sql : Direction → String
  | asc => "ASC"
  | desc => "DESC"

def name : Direction → String
  | asc => "asc"
  | desc => "desc"

/-- The direction of a key for which none is given. -/
def default : Direction := asc

def decode : Json.Decoder Direction := Json.decodeVariant [(asc.name, asc), (desc.name, desc)]

end Direction

structure SortKey where
  name : String
  direction : Direction
deriving DecidableEq, Repr, Inhabited

namespace SortKey

def asc (name : String) : SortKey := ⟨name, .asc⟩

def desc (name : String) : SortKey := ⟨name, .desc⟩

/-- The name, behind a dash when the order descends. -/
def text (k : SortKey) : String :=
  match k.direction with
  | .asc => k.name
  | .desc => "-" ++ k.name

def listText (keys : List SortKey) : String := String.intercalate "," (keys.map text)

/-- The key of one part of a sort text; a part that is blank, or blank but for a dash, has none. -/
def ofPart? (cs : List Char) : Option SortKey :=
  match Text.trimChars cs with
  | [] => none
  | '-' :: rest =>
    match Text.trimChars rest with
    | [] => none
    | name => some (desc (String.ofList name))
  | name => some (asc (String.ofList name))

/-- The keys of a sort text, in order. -/
def parseList (s : String) : List SortKey := (Text.split ',' s.toList).filterMap ofPart?

def record : Json.Record SortKey where
  name := "SortField"
  fields :=
    [.of "field" .required Json.decodeString fun k v => { k with name := v },
      .of "direction" .required Direction.decode fun k v => { k with direction := v }]
  blank := ⟨"", .asc⟩

def decode : Json.Decoder SortKey := record.decode

def toJson (k : SortKey) : Json :=
  .object [("direction", .string k.direction.name), ("field", .string k.name)]

end SortKey

end PagedQuery
