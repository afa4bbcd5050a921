import PagedQuery.Condition

/-! The text of a clause with its placeholders numbered, how the text and the slots of a clause
follow from its parts, and that both depend on its segments only. -/

namespace PagedQuery.Clause

/-- The text with placeholders numbered from `n`. -/
def written (c : Clause) (n : Nat) : String := c.lead ++ numbered n c.slots

theorem render_eq (c : Clause) (n : Nat) (args : List Arg) :
    c.render n args = ⟨c.written n, n + c.slotCount, args ++ c.args⟩ := rfl

@[simp] theorem written_text (s : String) (n : Nat) : (text s).written n = s := by
  simp [written, text, numbered]

@[simp] theorem written_slot (a : Arg) (n : Nat) : (slot a).written n = placeholder n := by
  simp [written, slot, numbered]

theorem written_behind (lead : String) (slots : List (Arg × String)) (c : Clause) (n : Nat) :
    (behind lead slots c).written n =
      lead ++ numbered n slots ++ c.written (n + slots.length) := by
  induction slots generalizing lead n with
  | nil => simp [behind, written, numbered, String.append_assoc]
  | cons s rest ih =>
    have htail := ih s.2 (n + 1)
    simp only [written] at htail
    simp only [behind, written, numbered, List.length_cons, String.append_assoc] at htail ⊢
    rw [htail, Nat.add_right_comm, Nat.add_assoc]

/-- The second of two clauses goes on with the numbers where the first one ends. -/
@[simp] theorem written_append (c d : Clause) (n : Nat) :
    (c ++ d).written n = c.written n ++ d.written (n + c.slotCount) :=
  written_behind c.lead c.slots d n

@[simp] theorem slotCount_text (s : String) : (text s).slotCount = 0 := rfl

@[simp] theorem slotCount_slot (a : Arg) : (slot a).slotCount = 1 := rfl

/-- The segments with numbered placeholders between them. -/
def writtenSegments : Nat → List String → String
  | _, [] => ""
  | _, [s] => s
  | n, s :: t :: rest => s ++ placeholder n ++ writtenSegments (n + 1) (t :: rest)

/-- The segments of one clause behind those of another: the last text of the one and the first of
the other become one text. -/
def joinSegments : List String → List String → List String
  | [], others => others
  | [s], others => others.modifyHead (s ++ ·)
  | s :: t :: rest, others => s :: joinSegments (t :: rest) others

/-- The text depends on the segments and not on the arguments. -/
theorem written_eq_segments (c : Clause) (n : Nat) : c.written n = writtenSegments n c.segments := by
  have hslots : ∀ (slots : List (Arg × String)) (lead : String) (m : Nat),
      lead ++ numbered m slots = writtenSegments m (lead :: slots.map (·.2)) := by
    intro slots
    induction slots with
    | nil => simp [numbered, writtenSegments]
    | cons s rest ih =>
      intro lead m
      rw [List.map_cons, writtenSegments, ← ih, numbered]
      simp only [String.append_assoc]
  exact hslots c.slots c.lead n

theorem slotCount_eq_segments (c : Clause) : c.slotCount = c.segments.length - 1 := by
  rw [length_segments, length_args, Nat.add_sub_cancel]

theorem segments_behind (lead : String) (slots : List (Arg × String)) (c : Clause) :
    (behind lead slots c).segments = joinSegments (lead :: slots.map (·.2)) c.segments := by
  induction slots generalizing lead with
  | nil => rfl
  | cons s rest ih => exact congrArg (lead :: ·) (ih s.2)

@[simp] theorem segments_append (c d : Clause) :
    (c ++ d).segments = joinSegments c.segments d.segments :=
  segments_behind c.lead c.slots d

@[simp] theorem segments_text (s : String) : (text s).segments = [s] := rfl

@[simp] theorem segments_slot (a : Arg) : (slot a).segments = ["", ""] := rfl

end PagedQuery.Clause
