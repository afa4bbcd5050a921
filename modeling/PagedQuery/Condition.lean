import PagedQuery.Clause
import PagedQuery.Like

/-! Conditions on rows: comparisons, substring matches, lists, nulls, and alternatives of those. -/

namespace PagedQuery

inductive Comparison where
  | eq | notEq | gt | gte | lt | lte
deriving DecidableEq, Repr, Inhabited

def Comparison.sql : Comparison → String
  | eq => "="
  | notEq => "<>"
  | gt => ">"
  | gte => ">="
  | lt => "<"
  | lte => "<="

/-- A condition on a row. Lists of values and of alternatives are never empty. -/
inductive Condition where
  /-- The column compares with the value. -/
  | compare (column : String) (op : Comparison) (value : Arg)
  /-- The column holds the text, in any case. -/
  | contains (column needle : String)
  /-- The column is one of the values. -/
  | oneOf (column : String) (first : Arg) (rest : List Arg)
  /-- The column is null. -/
  | isNull (column : String)
  /-- One of the conditions holds. -/
  | anyOf (first : Condition) (rest : List Condition)
deriving Inhabited

namespace Condition

def equals (column : String) (value : Arg) : Condition := compare column .eq value

def oneOf? (column : String) : List Arg → Option Condition
  | [] => none
  | first :: rest => some (oneOf column first rest)

def anyOf? : List Condition → Option Condition
  | [] => none
  | first :: rest => some (anyOf first rest)

/-- The slots of further values of a list, each behind a comma. -/
def moreSlots : List Arg → Clause
  | [] => .text ")"
  | a :: rest => .text ", " ++ (.slot a ++ moreSlots rest)

mutual
def clause : Condition → Clause
  | compare column op value => .text (column ++ " " ++ op.sql ++ " ") ++ .slot value
  | contains column needle =>
    .text (column ++ " ILIKE ") ++ .slot (.value (.text (Like.containing needle)))
  | oneOf column first rest =>
    .text (column ++ " IN (") ++ (.slot first ++ moreSlots rest)
  | isNull column => .text (column ++ " IS NULL")
  | anyOf first rest => .text "(" ++ (clause first ++ alternatives rest)

def alternatives : List Condition → Clause
  | [] => .text ")"
  | c :: rest => .text " OR " ++ (clause c ++ alternatives rest)
end

def slotCount (c : Condition) : Nat := c.clause.slotCount

/-- The values that the condition binds, in order. -/
def args (c : Condition) : List Arg := c.clause.args

/-- The text of the condition with placeholders numbered from `next`, behind the arguments so
far. -/
def render (c : Condition) (next : Nat) (args : List Arg) : Rendered := c.clause.render next args

/-- Conditions are equal when their clauses are. -/
instance : BEq Condition := ⟨fun c d => c.clause == d.clause⟩

end Condition

end PagedQuery
