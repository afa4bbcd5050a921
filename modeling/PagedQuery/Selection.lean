import PagedQuery.Condition
import PagedQuery.Log
import PagedQuery.Page.Window
import PagedQuery.Projection
import PagedQuery.Sort

/-!
Selections: the conditions and the sort order of one request over a projection, and the queries that
follow from them. Values travel as arguments of numbered placeholders; the text holds nothing but
columns of the projection, keywords and numbers.
-/

namespace PagedQuery

/-- A statement and the arguments of its placeholders, in the order of their numbers. -/
structure Query where
  sql : String
  args : List Arg
deriving Inhabited

/-- A projection, the conditions that rows have to meet together, a sort order that replaces the
default one, and the default one. -/
structure Selection where
  projection : Projection
  conditions : List Condition
  order : List SortKey
  defaultOrder : List SortKey
deriving Inhabited

namespace Selection

def ofProjection (projection : Projection) (defaultOrder : List SortKey) : Selection :=
  ⟨projection, [], [], defaultOrder⟩

def restrict (s : Selection) (c : Condition) : Selection :=
  { s with conditions := s.conditions ++ [c] }

def restrict? (s : Selection) : Option Condition → Selection
  | some c => s.restrict c
  | none => s

/-- The field compares with the value; no value, no condition. -/
def compared (s : Selection) (field : String) (op : Comparison) (value : Option Value) :
    Selection :=
  s.restrict? (value.map fun v => .compare (s.projection.resolve field) op (.value v))

/-- The field equals the value; no value, no condition. -/
def equalTo (s : Selection) (field : String) (value : Option Value) : Selection :=
  s.compared field .eq value

/-- The field equals the value, or is null when there is none. -/
def equalOrNull (s : Selection) (field : String) (value : Option Value) : Selection :=
  s.restrict
    (match value with
      | some v => .equals (s.projection.resolve field) (.value v)
      | none => .isNull (s.projection.resolve field))

/-- The field is one of the values; no values, no condition. -/
def among (s : Selection) (field : String) (values : List Value) : Selection :=
  s.restrict? (Condition.oneOf? (s.projection.resolve field) (values.map .value))

/-- The field holds the text, in any case; no text or a blank one, no condition. -/
def holding (s : Selection) (field : String) (text : Option String) : Selection :=
  s.restrict? ((text.bind Text.nonBlank?).map fun needle =>
    .contains (s.projection.resolve field) needle)

/-- One of the fields holds the text, in any case; no text, a blank one or no fields, no
condition. -/
def searching (s : Selection) (text : Option String) (fields : List String) : Selection :=
  s.restrict? ((text.bind Text.nonBlank?).bind fun needle =>
    Condition.anyOf? (fields.map fun f => .contains (s.projection.resolve f) needle))

/-- Replaces the sort order; an empty one leaves the default. -/
def orderedBy (s : Selection) (keys : List SortKey) : Selection := { s with order := keys }

def argCount (s : Selection) : Nat := s.conditions.foldr (fun c n => c.slotCount + n) 0

/-- The texts of conditions, numbered one after the other, and all their arguments. -/
def renderAll : List Condition → Nat → List Arg → List String × List Arg
  | [], _, args => ([], args)
  | c :: rest, next, args =>
    let r := c.render next args
    let (texts, all) := renderAll rest r.next r.args
    (r.sql :: texts, all)

/-- The WHERE clause with placeholders numbered from `start`; nothing without conditions. -/
def whereClause (s : Selection) (start : Nat) : Query :=
  if s.conditions.isEmpty then ⟨"", []⟩
  else
    let (texts, args) := renderAll s.conditions start []
    ⟨" WHERE " ++ String.intercalate " AND " texts, args⟩

/-- An entry of the ORDER BY clause. -/
def orderEntry (column : String) (k : SortKey) : String := column ++ " " ++ k.direction.sql

/-- The entries of the requested order. Its keys come from clients, so only the projected ones
count. -/
def requestedEntries (s : Selection) : List String :=
  s.order.filterMap fun k => (s.projection.resolve? k.name).map fun column => orderEntry column k

/-- The entries of the default order. -/
def defaultEntries (s : Selection) : List String :=
  s.defaultOrder.map fun k => orderEntry (s.projection.resolve k.name) k

/-- The ORDER BY clause: the requested order, or the default one when nothing of it is left. -/
def orderClause (s : Selection) : String :=
  let entries := if s.requestedEntries.isEmpty then s.defaultEntries else s.requestedEntries
  if entries.isEmpty then "" else " ORDER BY " ++ String.intercalate ", " entries

/-- What is reported each time the ORDER BY clause is rendered: the requested keys left out. -/
def orderEvents (s : Selection) : List LogEvent :=
  (s.order.filter fun k => (s.projection.resolve? k.name).isNone).map fun k =>
    .debug .selection "Ignoring sort on unprojected field" [("field", .text k.name)]

/-- All selected rows, in order. -/
def rowsQuery (s : Selection) : Query :=
  let filter := s.whereClause 1
  ⟨"SELECT " ++ s.projection.selectList ++ " FROM " ++ s.projection.fromClause ++ filter.sql ++
    s.orderClause, filter.args⟩

def countQuery (s : Selection) : Query :=
  let filter := s.whereClause 1
  ⟨"SELECT COUNT(*) FROM " ++ s.projection.fromClause ++ filter.sql, filter.args⟩

def pageQuery (s : Selection) (page pageSize : Int64) : Query :=
  ⟨s.rowsQuery.sql ++ (PageWindow.ofPage page pageSize).sql, s.rowsQuery.args⟩

/-- The first selected row. -/
def firstQuery (s : Selection) : Query := ⟨s.rowsQuery.sql ++ " LIMIT 1", s.rowsQuery.args⟩

/-- The row with the given identifier, whatever the conditions. -/
def byIdQuery (s : Selection) (idField : String) (id : Arg) : Query :=
  ⟨"SELECT " ++ s.projection.selectList ++ " FROM " ++ s.projection.fromClause ++ " WHERE " ++
    s.projection.resolve idField ++ " = $1", [id]⟩

end Selection

/-- What is asked about a selection. -/
inductive QueryShape where
  | rows
  | count
  | page (page pageSize : Int64)
  | first
  | byId (idField : String) (id : Arg)

namespace Selection

def query (s : Selection) : QueryShape → Query
  | .rows => s.rowsQuery
  | .count => s.countQuery
  | .page page pageSize => s.pageQuery page pageSize
  | .first => s.firstQuery
  | .byId idField id => s.byIdQuery idField id

def queryEvents (s : Selection) : QueryShape → List LogEvent
  | .rows | .page .. | .first => s.orderEvents
  | .count | .byId .. => []

end Selection

end PagedQuery
