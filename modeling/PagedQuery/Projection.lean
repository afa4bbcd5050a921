import PagedQuery.Join
import PagedQuery.OrderedMap

/-!
Projections: which columns of which tables a query reads, and under which logical names. A name
that is projected again is replaced in place, and so is a table that is joined again.
-/

namespace PagedQuery

/-- A selected column: its qualified name, and the name the result gives it when it differs. -/
structure Column where
  qualified : String
  label : Option String
deriving DecidableEq, Repr, Inhabited

def Column.sql (c : Column) : String :=
  match c.label with
  | some label => s!"{c.qualified} AS {label}"
  | none => c.qualified

/-- A base table, joined tables, and columns by logical name. `current` is the alias that qualifies
the columns projected next. -/
structure Projection where
  schema : String
  table : String
  tableAlias : String
  current : String
  columns : OrderedMap Column
  joins : OrderedMap Join
deriving Inhabited

namespace Projection

/-- The projection of a base table, without columns. -/
def ofTable (schema table tableAlias : String) : Projection :=
  ⟨schema, table, tableAlias, tableAlias, .empty, .empty⟩

/-- Puts `column` of the current table under a logical name. -/
def put (p : Projection) (column logical : String) (label : Option String) : Projection :=
  { p with columns := p.columns.insert logical ⟨s!"{p.current}.{column}", label⟩ }

/-- Selects `column` of the current table under a logical name. -/
def select (p : Projection) (column logical : String) : Projection :=
  p.put column logical none

/-- Selects `column` of the current table and labels it with its logical name. -/
def selectAs (p : Projection) (column logical : String) : Projection :=
  p.put column logical (some logical)

/-- Joins a table and makes it the current one. -/
def join (p : Projection) (schema table tableAlias : String) (kind : JoinKind) (on : String) :
    Projection :=
  { p with
    joins := p.joins.insert tableAlias
      ⟨kind, schema, table, tableAlias, on, p.joins.slot tableAlias⟩
    current := tableAlias }

/-- The FROM clause after its keyword: the base table and the joins in order. -/
def fromClause (p : Projection) : String :=
  p.joins.values.foldl (fun sql j => sql ++ " " ++ j.sql) s!"{p.schema}.{p.table} {p.tableAlias}"

def resolve? (p : Projection) (logical : String) : Option String :=
  (p.columns.get? logical).map (·.qualified)

/-- The qualified column under a logical name, or the name itself where there is none: for names
that the caller vouches for, never for those of a client. -/
def resolve (p : Projection) (logical : String) : String := (p.resolve? logical).getD logical

/-- The select list in order. -/
def selectList (p : Projection) : String :=
  String.intercalate ", " (p.columns.values.map Column.sql)

/-- The logical names in order. -/
def names (p : Projection) : List String := p.columns.keys

end Projection

inductive ProjectionStep where
  | select (column logical : String)
  | selectAs (column logical : String)
  | join (schema table tableAlias : String) (kind : JoinKind) (on : String)
deriving DecidableEq, Repr

namespace Projection

def step (p : Projection) : ProjectionStep → Projection
  | .select column logical => p.select column logical
  | .selectAs column logical => p.selectAs column logical
  | .join schema table tableAlias kind on => p.join schema table tableAlias kind on

def steps (p : Projection) (declared : List ProjectionStep) : Projection := declared.foldl step p

end Projection

end PagedQuery
