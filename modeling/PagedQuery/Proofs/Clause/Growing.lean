import Mathlib.Data.List.ModifyLast
import PagedQuery.Proofs.Clause.Written

/-! Clauses that grow at their end: texts and arguments in two lists, to which text, slots and other
clauses are added one after the other. Whatever is added, they stand for a clause, so that there is
always one text more than there are arguments. Their placeholders are numbered by a counter of 64
bits, which counts as the clause does for as long as its numbers fit. -/

namespace PagedQuery

/-- The texts around the slots and the arguments of the slots, apart from each other. -/
structure GrowingClause where
  segments : List String
  args : List Arg

namespace GrowingClause

/-- A text without slots. -/
def ofText (s : String) : GrowingClause := ⟨[s], []⟩

/-- The last text goes on with `s`. -/
def pushText (g : GrowingClause) (s : String) : GrowingClause :=
  { g with segments := g.segments.modifyLast (· ++ s) }

/-- A slot follows, with a text behind it that is still empty. -/
def pushArg (g : GrowingClause) (a : Arg) : GrowingClause :=
  ⟨g.segments ++ [""], g.args ++ [a]⟩

/-- Another clause follows: the last text goes on with its first one. -/
def append (g h : GrowingClause) : GrowingClause :=
  match h.segments with
  | [] => { g with args := g.args ++ h.args }
  | first :: rest => ⟨(g.pushText first).segments ++ rest, g.args ++ h.args⟩

/-- What was written goes on with the placeholder of the next number and with one more text. -/
def writeNext (written : String × UInt64) (segment : String) : String × UInt64 :=
  (written.1 ++ "$" ++ toString written.2 ++ segment, written.2 + 1)

/-- The text with placeholders numbered from `next`, behind the arguments so far. -/
def render (g : GrowingClause) (next : UInt64) (args : List Arg) : Rendered :=
  match g.segments with
  | [] => ⟨"", next.toNat, args ++ g.args⟩
  | first :: rest =>
    let written := rest.foldl writeNext (first, next)
    ⟨written.1, written.2.toNat, args ++ g.args⟩

end GrowingClause

theorem toNat_succ {n : UInt64} (h : n.toNat + 1 < UInt64.size) :
    (n + 1).toNat = n.toNat + 1 := by
  rw [UInt64.toNat_add]
  exact Nat.mod_eq_of_lt h

namespace Clause

/-- The texts and the arguments of the clause, apart from each other. -/
def growing (c : Clause) : GrowingClause := ⟨c.segments, c.args⟩

theorem behind_append (lead : String) (slots : List (Arg × String)) (d e : Clause) :
    behind lead slots d ++ e = behind lead slots (d ++ e) := by
  show behind (behind lead slots d).lead (behind lead slots d).slots e =
    behind lead slots (behind d.lead d.slots e)
  induction slots generalizing lead with
  | nil =>
    cases hd : d.slots with
    | nil => simp [behind, hd, String.append_assoc]
    | cons s rest => simp [behind, hd]
  | cons s rest ih => simp only [behind, ih]

theorem append_assoc (c d e : Clause) : c ++ d ++ e = c ++ (d ++ e) :=
  behind_append c.lead c.slots d e

theorem joinSegments_eq {segments : List String} (h : segments ≠ []) (first : String)
    (rest : List String) :
    joinSegments segments (first :: rest) = segments.modifyLast (· ++ first) ++ rest := by
  induction segments with
  | nil => exact absurd rfl h
  | cons s others ih =>
    cases others with
    | nil => rfl
    | cons t others =>
      have hlast : (s :: t :: others).modifyLast (· ++ first) =
          s :: (t :: others).modifyLast (· ++ first) :=
        List.modifyLast_append_of_right_ne_nil _ [s] _ (List.cons_ne_nil _ _)
      rw [joinSegments, ih (List.cons_ne_nil _ _), hlast, List.cons_append]

theorem growing_text (s : String) : (text s).growing = .ofText s := rfl

theorem growing_append (c d : Clause) : (c ++ d).growing = c.growing.append d.growing := by
  have hsegments : (c ++ d).segments =
      c.segments.modifyLast (· ++ d.lead) ++ d.slots.map (·.2) := by
    rw [segments_append]
    exact joinSegments_eq (List.cons_ne_nil _ _) _ _
  rw [growing, hsegments, args_append]
  rfl

theorem growing_append_text (c : Clause) (s : String) :
    (c ++ text s).growing = c.growing.pushText s := by
  rw [growing_append, growing_text, GrowingClause.append]
  simp [GrowingClause.ofText, GrowingClause.pushText]

theorem growing_append_slot (c : Clause) (a : Arg) :
    (c ++ slot a).growing = c.growing.pushArg a := by
  -- The text in front of a slot is glued to the one before it, and it is empty.
  have hempty : c.segments.modifyLast (· ++ "") = c.segments := by
    rcases List.eq_nil_or_concat c.segments with hnil | ⟨front, last, hlast⟩
    · rw [hnil]
      rfl
    · rw [hlast, List.concat_eq_append, List.modifyLast_concat, String.append_empty]
  rw [growing_append]
  show GrowingClause.mk (c.segments.modifyLast (· ++ "") ++ [""]) (c.args ++ [a]) = _
  rw [hempty]
  rfl

/-- Texts are written with their placeholders while there is room for the numbers, and the counter
moves on by one for each of them. -/
theorem foldl_writeNext {slots : List (Arg × String)} {n : UInt64}
    (hroom : n.toNat + slots.length < UInt64.size) (before : String) :
    let written := (slots.map (·.2)).foldl GrowingClause.writeNext (before, n)
    written.1 = before ++ numbered n.toNat slots ∧ written.2.toNat = n.toNat + slots.length := by
  induction slots generalizing before n with
  | nil => simp [numbered]
  | cons s rest ih =>
    rw [List.length_cons] at hroom
    have hnext : (n + 1).toNat = n.toNat + 1 := toNat_succ (by omega)
    obtain ⟨htext, hlast⟩ := ih (n := n + 1) (by omega) (before ++ "$" ++ toString n ++ s.2)
    refine ⟨htext.trans ?_, hlast.trans ?_⟩
    · rw [hnext, numbered]
      simp only [String.append_assoc]
      rfl
    · rw [hnext, List.length_cons]
      omega

/-- Writing text by text gives the text of the clause. -/
theorem render_growing (c : Clause) {next : UInt64}
    (hroom : next.toNat + c.slotCount < UInt64.size) (args : List Arg) :
    c.growing.render next args = c.render next.toNat args := by
  obtain ⟨htext, hnext⟩ := foldl_writeNext hroom c.lead
  show Rendered.mk ((c.slots.map (·.2)).foldl GrowingClause.writeNext (c.lead, next)).1
    ((c.slots.map (·.2)).foldl GrowingClause.writeNext (c.lead, next)).2.toNat _ = _
  rw [htext, hnext]
  rfl

end Clause

end PagedQuery
