import PagedQuery.Arg

/-!
Clauses: SQL text with argument slots. A slot gets its number only when the clause is rendered, so
that clauses with any number of slots can stand in any order. The numbers have no bound here; a
counter of 64 bits counts alike for as long as they stay below `UInt64.size`.
-/

namespace PagedQuery

/-- The text before the first slot, then each slot's argument with the text after it. -/
structure Clause where
  lead : String
  slots : List (Arg × String)
deriving Inhabited

/-- A rendered text, the number of the next placeholder, and all arguments so far. -/
structure Rendered where
  sql : String
  next : Nat
  args : List Arg
deriving Inhabited

namespace Clause

/-- Text without slots. -/
def text (s : String) : Clause := ⟨s, []⟩

/-- One slot without text. -/
def slot (a : Arg) : Clause := ⟨"", [(a, "")]⟩

/-- The clause `c` behind a text and slots: the last text of the one and the first of the other
become one text. -/
def behind (lead : String) : List (Arg × String) → Clause → Clause
  | [], c => ⟨lead ++ c.lead, c.slots⟩
  | (a, after) :: rest, c =>
    let tail := behind after rest c
    ⟨lead, (a, tail.lead) :: tail.slots⟩

/-- One clause behind the other. -/
def append (c d : Clause) : Clause := behind c.lead c.slots d

instance : Append Clause := ⟨append⟩

/-- The texts around the slots, in order. -/
def segments (c : Clause) : List String := c.lead :: c.slots.map (·.2)

/-- The arguments of the slots, in order. -/
def args (c : Clause) : List Arg := c.slots.map (·.1)

def slotCount (c : Clause) : Nat := c.slots.length

/-- The placeholder with number `n`. -/
def placeholder (n : Nat) : String := "$" ++ toString n

/-- The texts behind the slots, each after its placeholder, numbered from `n`. -/
def numbered : Nat → List (Arg × String) → String
  | _, [] => ""
  | n, (_, after) :: rest => placeholder n ++ after ++ numbered (n + 1) rest

/-- The text with placeholders numbered from `next`, behind the arguments so far. -/
def render (c : Clause) (next : Nat) (args : List Arg) : Rendered :=
  ⟨c.lead ++ numbered next c.slots, next + c.slotCount, args ++ c.args⟩

def beq (c d : Clause) : Bool := c.segments == d.segments && c.args == d.args

instance : BEq Clause := ⟨beq⟩

theorem length_segments (c : Clause) : c.segments.length = c.args.length + 1 := by
  simp [segments, args]

theorem length_args (c : Clause) : c.args.length = c.slotCount := by
  simp [args, slotCount]

@[simp] theorem args_text (s : String) : (text s).args = [] := rfl

@[simp] theorem args_slot (a : Arg) : (slot a).args = [a] := rfl

theorem args_behind (lead : String) (slots : List (Arg × String)) (c : Clause) :
    (behind lead slots c).args = slots.map (·.1) ++ c.args := by
  induction slots generalizing lead with
  | nil => rfl
  | cons s rest ih => simpa [behind, args] using ih s.2

@[simp] theorem args_append (c d : Clause) : (c ++ d).args = c.args ++ d.args :=
  args_behind c.lead c.slots d

end Clause

end PagedQuery
