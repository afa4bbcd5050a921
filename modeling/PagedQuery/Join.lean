/-! Joined tables of a FROM clause. -/

namespace PagedQuery

inductive JoinKind where
  | inner | left | right | full
deriving DecidableEq, Repr, Inhabited

def JoinKind.sql : JoinKind → String
  | inner => "INNER JOIN"
  | left => "LEFT JOIN"
  | right => "RIGHT JOIN"
  | full => "FULL OUTER JOIN"

/-- A joined table: how and what is joined, the alias it goes by, the condition, and its place among
the joins of its projection. -/
structure Join where
  kind : JoinKind
  schema : String
  table : String
  tableAlias : String
  on : String
  index : Nat
deriving DecidableEq, Repr, Inhabited

def Join.sql (j : Join) : String :=
  s!"{j.kind.sql} {j.schema}.{j.table} {j.tableAlias} ON {j.on}"

end PagedQuery
