import PagedQuery.Proofs.Clause.Written

/-! What a condition is made of: the columns that it names and the values that it binds, read off
its structure and not off its clause. -/

namespace PagedQuery.Condition

mutual
/-- The columns in the order of the text. -/
def columns : Condition → List String
  | compare column _ _ | contains column _ | oneOf column _ _ | isNull column => [column]
  | anyOf first rest => columns first ++ allColumns rest

/-- The columns of several conditions. -/
def allColumns : List Condition → List String
  | [] => []
  | c :: rest => columns c ++ allColumns rest
end

/-- The pattern of a text that is looked for: the text between two runs of any characters, with a
backslash in front of each character that would not stand for itself. -/
def pattern (needle : String) : String :=
  let literal (c : Char) := if c = '\\' || c = '%' || c = '_' then ['\\', c] else [c]
  "%" ++ String.ofList (needle.toList.flatMap literal) ++ "%"

theorem containing_eq_pattern (needle : String) : Like.containing needle = pattern needle := rfl

mutual
/-- The values in the order of the text; a text that is looked for is bound as its pattern. -/
def values : Condition → List Arg
  | compare _ _ value => [value]
  | contains _ needle => [.value (.text (pattern needle))]
  | oneOf _ first rest => first :: rest
  | isNull _ => []
  | anyOf first rest => values first ++ allValues rest

/-- The values of several conditions. -/
def allValues : List Condition → List Arg
  | [] => []
  | c :: rest => values c ++ allValues rest
end

theorem allColumns_eq_flatMap (cs : List Condition) : allColumns cs = cs.flatMap columns := by
  induction cs with
  | nil => rfl
  | cons c rest ih => rw [allColumns, ih, List.flatMap_cons]

theorem allValues_eq_flatMap (cs : List Condition) : allValues cs = cs.flatMap values := by
  induction cs with
  | nil => rfl
  | cons c rest ih => rw [allValues, ih, List.flatMap_cons]

theorem args_moreSlots (vs : List Arg) : (moreSlots vs).args = vs := by
  induction vs with
  | nil => rfl
  | cons v rest ih => simp [moreSlots, ih]

mutual
/-- The arguments of the clause are the values of the condition. -/
theorem args_clause : (c : Condition) → c.clause.args = c.values
  | compare _ _ _ | isNull _ => rfl
  | contains _ needle => by
    rw [values, ← containing_eq_pattern]
    rfl
  | oneOf _ first rest => by simp [clause, values, args_moreSlots]
  | anyOf first rest => by simp [clause, values, args_clause first, args_alternatives rest]

theorem args_alternatives : (cs : List Condition) → (alternatives cs).args = allValues cs
  | [] => rfl
  | c :: rest => by simp [alternatives, allValues, args_clause c, args_alternatives rest]
end

theorem slotCount_clause (c : Condition) : c.clause.slotCount = c.values.length := by
  rw [← Clause.length_args, args_clause]

end PagedQuery.Condition
