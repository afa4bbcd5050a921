import PagedQuery.Proofs.Search.Meaning
import PagedQuery.Proofs.Selection.Alignment

/-! The WHERE clause means that all conditions hold: its text has one reading, and that reading has
their truth value under every interpretation of the predicates. -/

namespace PagedQuery

open SearchCondition

/-- All conditions hold. -/
def Condition.holdsAll (interpret : Atom Arg → Truth) (cs : List Condition) : Truth :=
  Truth.all (cs.map (holds interpret))

/-- Further conditions behind others: all of them are one term. -/
theorem Condition.means_conjoined {bound : Nat → Option Arg} {before : List Char}
    {m : (Atom Arg → Truth) → Truth} (h : Means .term before bound m) {cs : List Condition}
    (hnamed : ∀ c ∈ cs, c.Named) {n : Nat} (hb : Binds bound n (cs.flatMap values)) :
    Means .term (before ++ ((conjoined cs).written n).toList) bound fun interpret =>
      (m interpret).and (holdsAll interpret cs) := by
  induction cs generalizing before m n with
  | nil => simpa [conjoined, holdsAll] using h
  | cons c rest ih =>
    rw [List.forall_mem_cons] at hnamed
    rw [List.flatMap_cons] at hb
    obtain ⟨hcBinds, hrestBinds⟩ := hb.append
    rw [← slotCount_clause] at hrestBinds
    have hmeans := ih (h.and (means_clause n c hnamed.1 hcBinds)) hnamed.2 hrestBinds
    simpa [conjoined, holdsAll, Truth.and_assoc] using hmeans

namespace Selection

theorem args_whereClause (s : Selection) (start : Nat) :
    (s.whereClause start).args = s.conditions.flatMap Condition.values := by
  rw [whereClause_eq, args_filterClause]

/-- The text behind the keyword means all conditions, under every binding of its numbers to their
values. -/
theorem means_whereClause {s : Selection} (hsome : s.conditions ≠ [])
    (hnamed : ∀ c ∈ s.conditions, c.Named) {bound : Nat → Option Arg} {start : Nat}
    (hbinds : Binds bound start (s.whereClause start).args) :
    ∃ text, (s.whereClause start).sql = " WHERE " ++ text ∧
      Means .condition text.toList bound fun interpret =>
        Condition.holdsAll interpret s.conditions := by
  obtain ⟨c, rest, hconditions⟩ := List.exists_cons_of_ne_nil hsome
  rw [args_whereClause, hconditions, List.flatMap_cons] at hbinds
  rw [hconditions, List.forall_mem_cons] at hnamed
  obtain ⟨hcBinds, hrestBinds⟩ := hbinds.append
  rw [← Condition.slotCount_clause] at hrestBinds
  have hmeans := (Condition.means_conjoined
    (Condition.means_clause start c hnamed.1 hcBinds).term hnamed.2 hrestBinds).condition
  rw [← String.toList_append] at hmeans
  refine ⟨_, ?_, by rw [hconditions]; exact hmeans⟩
  rw [whereClause_eq, filterClause, hconditions]
  simp

/-- The value of the placeholder with a number, in a query whose numbers run from `start` on. -/
def boundFrom (start : Nat) (args : List Arg) (n : Nat) : Option Arg :=
  if start ≤ n then args[n - start]? else none

theorem binds_boundFrom (start : Nat) (args : List Arg) :
    Binds (boundFrom start args) start args := by
  intro i v hv
  rw [boundFrom, if_pos (Nat.le_add_right start i), Nat.add_sub_cancel_left, hv]

/-- The same where numbers have 64 bits: a greater one has no value. -/
def boundWord (start : UInt64) (args : List Arg) (n : Nat) : Option Arg :=
  if n < UInt64.size then boundFrom start.toNat args n else none

theorem binds_boundWord {start : UInt64} {args : List Arg}
    (hroom : start.toNat + args.length < UInt64.size) :
    Binds (boundWord start args) start.toNat args := by
  intro i v hv
  obtain ⟨hi, -⟩ := List.getElem?_eq_some_iff.mp hv
  have hword : start.toNat + i < UInt64.size := by omega
  rw [boundWord, if_pos hword]
  exact binds_boundFrom start.toNat args i v hv

/-- Whatever the projection and the steps, when they add conditions on columns that need no quotes,
and whatever the start, when all numbers have 64 bits: the text behind the keyword is a search
condition of the grammar, and of one only. With the arguments in place of the placeholders, it has
the truth value of all conditions together. -/
theorem whereClause_means {p : Projection} {defaultOrder : List SortKey}
    {asked : List SelectionStep} (hsome : asked.filterMap (SelectionStep.condition? p) ≠ [])
    (hnamed : ∀ c ∈ asked.filterMap (SelectionStep.condition? p), c.Named) {start : UInt64}
    (hroom : start.toNat + (asked.flatMap SelectionStep.values).length < UInt64.size) :
    let filter := ((ofProjection p defaultOrder).steps asked).whereClause start.toNat
    ∃ text e, filter.sql = " WHERE " ++ text ∧ Parses text e ∧ (∀ f, Parses text f → f = e) ∧
      ∃ f, e.replace (boundWord start filter.args) = some f ∧ ∀ interpret : Atom Arg → Truth,
        f.eval interpret =
          Condition.holdsAll interpret (asked.filterMap (SelectionStep.condition? p)) := by
  intro filter
  have hconditions : ((ofProjection p defaultOrder).steps asked).conditions =
      asked.filterMap (SelectionStep.condition? p) := conditions_steps _ _
  have hargs : filter.args = asked.flatMap SelectionStep.values :=
    (args_whereClause _ _).trans (values_steps p defaultOrder asked)
  rw [← hargs] at hroom
  rw [← hconditions] at hsome hnamed
  obtain ⟨text, hsql, ts, e, f, hspells, hderives, hreplace, heval⟩ :=
    means_whereClause hsome hnamed (binds_boundWord hroom)
  have hparses : Parses text e := ⟨ts, hspells, hderives⟩
  refine ⟨text, e, hsql, hparses, fun _ => hparses.unique, f, hreplace, fun interpret => ?_⟩
  rw [heval, hconditions]

/-- A group between two other conditions, the last of them a list, up to the greatest number. -/
theorem whereClause_means_group :
    let asked : List SelectionStep := [.restrict (.isNull "d.tag"),
      .restrict (.anyOf (.contains "d.title" "50%") [.compare "d.size" .gt (.value (.int 7))]),
      .restrict (.oneOf "d.id" (.value (.int 1)) [.value (.int 2)])]
    let start : UInt64 := 18446744073709551611
    let filter := ((ofProjection (Projection.ofTable "public" "documents" "d") []).steps
      asked).whereClause start.toNat
    ∃ text e f, filter.sql = " WHERE " ++ text ∧ Parses text e ∧
      e.replace (boundWord start filter.args) = some f ∧ ∀ interpret : Atom Arg → Truth,
        f.eval interpret =
          (interpret (.isNull "d.tag")).and
            (((interpret (.like "d.title" (.value (.text "%50\\%%")))).or
              (interpret (.compare "d.size" .gt (.value (.int 7))))).and
                (interpret (.oneOf "d.id" (.value (.int 1)) [.value (.int 2)]))) := by
  intro asked start filter
  have hsome : asked.filterMap (SelectionStep.condition? (Projection.ofTable "public" "documents"
      "d")) ≠ [] := List.cons_ne_nil _ _
  have hnames : ∀ column ∈ ["d.tag", "d.title", "d.size", "d.id"], IsName column := by decide
  have hnamed : ∀ c ∈ asked.filterMap (SelectionStep.condition? (Projection.ofTable "public"
      "documents" "d")), c.Named := by
    intro c hc column hcolumn
    have hc : c = .isNull "d.tag" ∨ c = .anyOf (.contains "d.title" "50%")
        [.compare "d.size" .gt (.value (.int 7))] ∨ c = .oneOf "d.id" (.value (.int 1))
          [.value (.int 2)] := by
      simpa [asked, SelectionStep.condition?] using hc
    apply hnames
    rcases hc with rfl | rfl | rfl <;> simp [Condition.columns, Condition.allColumns] at hcolumn
    · simp [hcolumn]
    · rcases hcolumn with rfl | rfl <;> simp
    · simp [hcolumn]
  have hroom : start.toNat + (asked.flatMap SelectionStep.values).length < UInt64.size := by decide
  obtain ⟨text, e, hsql, hparses, -, f, hreplace, heval⟩ :=
    @whereClause_means _ [] _ hsome hnamed start hroom
  refine ⟨text, e, f, hsql, hparses, hreplace, fun interpret => ?_⟩
  have hpattern : Condition.pattern "50%" = "%50\\%%" := by decide
  rw [heval]
  simp [asked, Condition.holdsAll, SelectionStep.condition?, Condition.holds, Condition.someHolds,
    hpattern]

end Selection

end PagedQuery
