import PagedQuery.Proofs.Clause.Growing
import PagedQuery.Proofs.Condition.Parts

/-! Conditions spelled out by plain recursion, the number of the next placeholder handed on from part
to part in 64 bits. The clause of a condition is written as the condition is spelled, and it is the
clause that grows when the condition is read from left to right. -/

namespace PagedQuery

/-- The sign of a comparison. -/
def Comparison.sign : Comparison → String
  | eq => "="
  | notEq => "<>"
  | gt => ">"
  | gte => ">="
  | lt => "<"
  | lte => "<="

theorem Comparison.sql_eq_sign (op : Comparison) : op.sql = op.sign := by
  cases op <;> rfl

namespace Condition

/-! ### Spelling by recursion -/

/-- The placeholders of values, numbered from `n`, and the number after the last. -/
def spelledValues : List Arg → UInt64 → List String × UInt64
  | [], n => ([], n)
  | _ :: rest, n =>
    let tail := spelledValues rest (n + 1)
    (("$" ++ toString n) :: tail.1, tail.2)

mutual
/-- The text of a condition with placeholders numbered from `n`, and the number after the last. -/
def spelled : Condition → UInt64 → String × UInt64
  | compare column op _, n => (column ++ " " ++ op.sign ++ " " ++ ("$" ++ toString n), n + 1)
  | contains column _, n => (column ++ " ILIKE " ++ ("$" ++ toString n), n + 1)
  | oneOf column first rest, n =>
    let list := spelledValues (first :: rest) n
    (column ++ " IN (" ++ String.intercalate ", " list.1 ++ ")", list.2)
  | isNull column, n => (column ++ " IS NULL", n)
  | anyOf first rest, n =>
    let head := spelled first n
    let tail := spelledAll rest head.2
    ("(" ++ String.intercalate " OR " (head.1 :: tail.1) ++ ")", tail.2)

/-- The texts of several conditions, numbered one after the other. -/
def spelledAll : List Condition → UInt64 → List String × UInt64
  | [], n => ([], n)
  | c :: rest, n =>
    let head := spelled c n
    let tail := spelledAll rest head.2
    (head.1 :: tail.1, tail.2)
end

theorem written_slot_toNat (a : Arg) (n : UInt64) :
    (Clause.slot a).written n.toNat = "$" ++ toString n := Clause.written_slot a n.toNat

/-- What is in front of further slots becomes the first entry of their list. -/
theorem spelledValues_eq (vs : List Arg) {n : UInt64}
    (hroom : n.toNat + vs.length < UInt64.size) (front : String) :
    front ++ (moreSlots vs).written n.toNat =
        String.intercalate ", " (front :: (spelledValues vs n).1) ++ ")" ∧
      (spelledValues vs n).2.toNat = n.toNat + vs.length := by
  induction vs generalizing front n with
  | nil => simp [spelledValues, moreSlots]
  | cons v rest ih =>
    rw [List.length_cons] at hroom
    have hnext : (n + 1).toNat = n.toNat + 1 := toNat_succ (by omega)
    obtain ⟨htext, hlast⟩ := ih (n := n + 1) (by omega) ("$" ++ toString n)
    rw [hnext] at htext hlast
    constructor
    · simp only [moreSlots, spelledValues, Clause.written_append, Clause.written_text,
        written_slot_toNat, Clause.slotCount_text, Clause.slotCount_slot, Nat.add_zero, htext,
        String.intercalate_cons_cons, String.append_assoc]
    · rw [spelledValues, List.length_cons, hlast]
      omega

mutual
/-- The clause of a condition is written as the condition is spelled. -/
theorem spelled_eq : (c : Condition) → {n : UInt64} → n.toNat + c.values.length < UInt64.size →
    (c.spelled n).1 = c.clause.written n.toNat ∧
      (c.spelled n).2.toNat = n.toNat + c.values.length
  | compare column op value, n, hroom => by
    refine ⟨?_, toNat_succ hroom⟩
    simp only [spelled, clause, Clause.written_append, Clause.written_text, Clause.slotCount_text,
      Nat.add_zero, written_slot_toNat, Comparison.sql_eq_sign]
  | contains column needle, n, hroom => by
    refine ⟨?_, toNat_succ hroom⟩
    simp only [spelled, clause, Clause.written_append, Clause.written_text, Clause.slotCount_text,
      Nat.add_zero, written_slot_toNat]
  | isNull column, n, _ => by simp [spelled, clause, values]
  | oneOf column first rest, n, hroom => by
    rw [values, List.length_cons] at hroom
    have hnext : (n + 1).toNat = n.toNat + 1 := toNat_succ (by omega)
    obtain ⟨htext, hlast⟩ := spelledValues_eq rest (n := n + 1) (by omega) ("$" ++ toString n)
    rw [hnext] at htext hlast
    constructor
    · simp only [spelled, spelledValues, clause, Clause.written_append, Clause.written_text,
        written_slot_toNat, Clause.slotCount_text, Clause.slotCount_slot, Nat.add_zero, htext,
        String.append_assoc]
    · rw [spelled, spelledValues, hlast, values, List.length_cons]
      omega
  | anyOf first rest, n, hroom => by
    rw [values, List.length_append] at hroom
    obtain ⟨hfirst, hnext⟩ := spelled_eq first (n := n) (by omega)
    obtain ⟨htext, hlast⟩ := spelledAll_eq rest (n := (first.spelled n).2) (by omega)
      (first.spelled n).1
    rw [hnext, hfirst] at htext
    rw [hnext] at hlast
    constructor
    · simp only [spelled, clause, Clause.written_append, Clause.written_text,
        Clause.slotCount_text, Nat.add_zero, slotCount_clause, hfirst, htext, String.append_assoc]
    · rw [spelled, hlast, values, List.length_append, Nat.add_assoc]

/-- What is in front of further alternatives becomes the first of them. -/
theorem spelledAll_eq : (cs : List Condition) → {n : UInt64} →
    n.toNat + (allValues cs).length < UInt64.size → (front : String) →
    front ++ (alternatives cs).written n.toNat =
        String.intercalate " OR " (front :: (spelledAll cs n).1) ++ ")" ∧
      (spelledAll cs n).2.toNat = n.toNat + (allValues cs).length
  | [], n, _, front => by simp [spelledAll, alternatives, allValues]
  | c :: rest, n, hroom, front => by
    rw [allValues, List.length_append] at hroom
    obtain ⟨hc, hnext⟩ := spelled_eq c (n := n) (by omega)
    obtain ⟨htext, hlast⟩ := spelledAll_eq rest (n := (c.spelled n).2) (by omega) (c.spelled n).1
    rw [hnext, hc] at htext
    rw [hnext] at hlast
    constructor
    · simp only [spelledAll, alternatives, Clause.written_append, Clause.written_text,
        Clause.slotCount_text, Nat.add_zero, slotCount_clause, hc, htext,
        String.intercalate_cons_cons, String.append_assoc]
    · rw [spelledAll, hlast, allValues, List.length_append, Nat.add_assoc]
end

/-! ### Growing from left to right -/

/-- Further values of a list are added, a comma in front of each. -/
def growValues (g : GrowingClause) (vs : List Arg) : GrowingClause :=
  vs.foldl (fun g v => (g.pushText ", ").pushArg v) g

mutual
/-- The clause of a condition, grown from left to right. -/
def grown : Condition → GrowingClause
  | compare column op value =>
    (GrowingClause.ofText (column ++ " " ++ op.sign ++ " ")).pushArg value
  | contains column needle =>
    (GrowingClause.ofText (column ++ " ILIKE ")).pushArg (.value (.text (pattern needle)))
  | oneOf column first rest =>
    (growValues ((GrowingClause.ofText (column ++ " IN (")).pushArg first) rest).pushText ")"
  | isNull column => .ofText (column ++ " IS NULL")
  | anyOf first rest =>
    (growAll ((GrowingClause.ofText "(").append (grown first)) rest).pushText ")"

/-- Further alternatives are added, the keyword in front of each. -/
def growAll : GrowingClause → List Condition → GrowingClause
  | g, [] => g
  | g, c :: rest => growAll ((g.pushText " OR ").append (grown c)) rest
end

theorem growValues_eq (c : Clause) (vs : List Arg) :
    (growValues c.growing vs).pushText ")" = (c ++ moreSlots vs).growing := by
  induction vs generalizing c with
  | nil => exact (Clause.growing_append_text c ")").symm
  | cons v rest ih =>
    rw [growValues, List.foldl_cons, ← Clause.growing_append_text, ← Clause.growing_append_slot]
    rw [moreSlots, ← Clause.append_assoc, ← Clause.append_assoc]
    exact ih _

mutual
/-- The clause that has grown is the clause of the condition. -/
theorem grown_eq : (c : Condition) → c.grown = c.clause.growing
  | compare column op value => by
    rw [clause, Comparison.sql_eq_sign]
    exact (Clause.growing_append_slot (.text _) value).symm
  | contains column needle => by
    rw [clause, containing_eq_pattern]
    exact (Clause.growing_append_slot (.text _) _).symm
  | isNull column => rfl
  | oneOf column first rest => by
    rw [grown, ← Clause.growing_text, ← Clause.growing_append_slot, growValues_eq, clause,
      Clause.append_assoc]
  | anyOf first rest => by
    rw [grown, grown_eq first, ← Clause.growing_text, ← Clause.growing_append, growAll_eq rest,
      clause, Clause.append_assoc]

theorem growAll_eq : (cs : List Condition) → (c : Clause) →
    (growAll c.growing cs).pushText ")" = (c ++ alternatives cs).growing
  | [], c => (Clause.growing_append_text c ")").symm
  | d :: rest, c => by
    rw [growAll, grown_eq d, ← Clause.growing_append_text, ← Clause.growing_append,
      growAll_eq rest, alternatives, Clause.append_assoc, Clause.append_assoc]
end

/-- Rendering a condition writes it as it is spelled, whatever the number of its first placeholder
and the arguments before it, when all its numbers have 64 bits. The number moves on by one for each
of its values, which are added to the arguments from left to right. The clause that grows while the
condition is read has one text more than it has arguments, and it is rendered alike. -/
theorem render_eq_spelled (c : Condition) {next : UInt64}
    (hroom : next.toNat + c.values.length < UInt64.size) (args : List Arg) :
    c.render next.toNat args = ⟨(c.spelled next).1, (c.spelled next).2.toNat, args ++ c.values⟩ ∧
      (c.spelled next).2.toNat = next.toNat + c.slotCount ∧ c.slotCount = c.args.length ∧
      c.args = c.values ∧
      c.grown.render next args = c.render next.toNat args ∧ c.grown.args = c.args ∧
      c.grown.segments.length = c.grown.args.length + 1 ∧
      c.slotCount = c.grown.segments.length - 1 := by
  obtain ⟨htext, hnext⟩ := spelled_eq c hroom
  rw [← slotCount_clause] at hnext hroom
  have hgrown := grown_eq c
  have hlength := c.clause.length_segments
  refine ⟨?_, hnext, c.clause.length_args.symm, args_clause c, ?_, ?_, ?_, ?_⟩
  · rw [htext, hnext, ← args_clause]
    rfl
  · rw [hgrown]
    exact c.clause.render_growing hroom args
  · rw [hgrown]
    rfl
  · rw [hgrown]
    exact hlength
  · rw [hgrown]
    exact c.clause.slotCount_eq_segments

/-- A list and a test for nothing in a group of its own, up to the greatest number. -/
theorem render_eq_spelled_greatest :
    let c := anyOf (oneOf "d.tag" (.value (.int 1)) [.value (.int 2)])
      [anyOf (isNull "d.tag") [], compare "d.size" .gte (.value (.int 3))]
    let next : UInt64 := 18446744073709551612
    next.toNat + c.values.length < UInt64.size ∧
      c.render next.toNat [.value (.int 0)] =
        ⟨"(d.tag IN ($18446744073709551612, $18446744073709551613) OR (d.tag IS NULL) OR " ++
          "d.size >= $18446744073709551614)", 18446744073709551615,
          [.value (.int 0), .value (.int 1), .value (.int 2), .value (.int 3)]⟩ := by
  intro c next
  have hroom : next.toNat + c.values.length < UInt64.size := by decide
  obtain ⟨hrender, -⟩ := render_eq_spelled c hroom [.value (.int 0)]
  have hspelled : c.spelled next =
      ("(d.tag IN ($18446744073709551612, $18446744073709551613) OR (d.tag IS NULL) OR " ++
        "d.size >= $18446744073709551614)", 18446744073709551615) := by decide
  rw [hspelled] at hrender
  exact ⟨hroom, hrender⟩

end Condition

end PagedQuery
