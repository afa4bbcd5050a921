import Mathlib.Data.List.Basic
import PagedQuery.Condition

/-! Search conditions of SQL as trees, and their truth values: true, false, or unknown where a null
takes part. -/

namespace PagedQuery

inductive Truth where
  | true | unknown | false
deriving DecidableEq, Repr

namespace Truth

def and : Truth → Truth → Truth
  | .false, _ | _, .false => .false
  | .unknown, _ | _, .unknown => .unknown
  | .true, .true => .true

def or : Truth → Truth → Truth
  | .true, _ | _, .true => .true
  | .unknown, _ | _, .unknown => .unknown
  | .false, .false => .false

/-- All of them hold. -/
def all (ts : List Truth) : Truth := ts.foldr and .true

/-- One of them holds. -/
def any (ts : List Truth) : Truth := ts.foldr or .false

/-- Whether something holds, unless that is unknown. -/
def ofOption : Option Bool → Truth
  | some b => if b then .true else .false
  | none => .unknown

@[simp] theorem all_nil : all [] = .true := rfl

@[simp] theorem all_cons (t : Truth) (ts : List Truth) : all (t :: ts) = t.and (all ts) := rfl

@[simp] theorem and_true (t : Truth) : t.and .true = t := by cases t <;> rfl

@[simp] theorem or_false (t : Truth) : t.or .false = t := by cases t <;> rfl

theorem and_assoc (t u v : Truth) : (t.and u).and v = t.and (u.and v) := by
  cases t <;> cases u <;> cases v <;> rfl

theorem or_assoc (t u v : Truth) : (t.or u).or v = t.or (u.or v) := by
  cases t <;> cases u <;> cases v <;> rfl

theorem and_eq_true {t u : Truth} : t.and u = .true ↔ t = .true ∧ u = .true := by
  cases t <;> cases u <;> simp [and]

theorem or_eq_true {t u : Truth} : t.or u = .true ↔ t = .true ∨ u = .true := by
  cases t <;> cases u <;> simp [or]

theorem all_eq_true {ts : List Truth} : all ts = .true ↔ ∀ t ∈ ts, t = .true := by
  induction ts with
  | nil => simp
  | cons t rest ih => rw [all_cons, and_eq_true, ih, List.forall_mem_cons]

theorem any_eq_true {ts : List Truth} : any ts = .true ↔ ∃ t ∈ ts, t = .true := by
  induction ts with
  | nil => simp [any]
  | cons t rest ih =>
    rw [any, List.foldr_cons, ← any, or_eq_true, ih, List.exists_mem_cons_iff]

theorem ofOption_eq_true {b : Option Bool} : ofOption b = .true ↔ b = some Bool.true := by
  rcases b with _ | _ | _ <;> simp [ofOption]

end Truth

/-- A predicate about one column. -/
inductive Atom (α : Type) where
  | compare (column : String) (op : Comparison) (value : α)
  | like (column : String) (pattern : α)
  | oneOf (column : String) (first : α) (rest : List α)
  | isNull (column : String)

/-- A search condition over predicates. -/
inductive SearchCondition (α : Type) where
  | atom (a : Atom α)
  | and (left right : SearchCondition α)
  | or (left right : SearchCondition α)

variable {α β : Type}

/-- The predicate with a value for each placeholder, if each has one. -/
def Atom.replace (bound : α → Option β) : Atom α → Option (Atom β)
  | compare column op value => (bound value).map (compare column op)
  | like column pattern => (bound pattern).map (like column)
  | oneOf column first rest =>
    (bound first).bind fun v => (rest.mapM bound).map fun vs => oneOf column v vs
  | isNull column => some (isNull column)

namespace SearchCondition

/-- The search condition with a value for each placeholder, if each has one. -/
def replace (bound : α → Option β) : SearchCondition α → Option (SearchCondition β)
  | atom a => (a.replace bound).map atom
  | and left right => (left.replace bound).bind fun l => (right.replace bound).map fun r => and l r
  | or left right => (left.replace bound).bind fun l => (right.replace bound).map fun r => or l r

/-- The truth value under an interpretation of the predicates. -/
def eval (holds : Atom α → Truth) : SearchCondition α → Truth
  | atom a => holds a
  | and left right => (left.eval holds).and (right.eval holds)
  | or left right => (left.eval holds).or (right.eval holds)

end SearchCondition

end PagedQuery
