import Mathlib.Data.List.Forall2
import Mathlib.Data.List.Infix
import PagedQuery.Like

/-! Which texts a pattern of LIKE matches. The pattern that looks for a text matches exactly the texts
that hold it, whatever its characters are. -/

namespace PagedQuery.Like

/-- A part of a pattern: any run of characters, any one character, or a character itself. -/
inductive Piece where
  | run
  | one
  | itself (c : Char)
deriving DecidableEq

/-- The parts of a pattern. A backslash takes the character behind it literally; at the end of a
pattern it is an error. -/
def pieces? : List Char → Option (List Piece)
  | [] => some []
  | ['\\'] => none
  | '\\' :: c :: rest => (pieces? rest).map (.itself c :: ·)
  | '%' :: rest => (pieces? rest).map (.run :: ·)
  | '_' :: rest => (pieces? rest).map (.one :: ·)
  | c :: rest => (pieces? rest).map (.itself c :: ·)

/-- The parts match the whole text; `alike` says which characters are the same. -/
def matched (alike : Char → Char → Bool) : List Piece → List Char → Bool
  | [], text => text.isEmpty
  | .run :: rest, text => text.tails.any (matched alike rest)
  | .one :: rest, _ :: text => matched alike rest text
  | .itself c :: rest, d :: text => alike c d && matched alike rest text
  | _ :: _, [] => false

/-- Whether the pattern matches the text, unless the pattern is an error. -/
def matches? (alike : Char → Char → Bool) (pattern text : String) : Option Bool :=
  (pieces? pattern.toList).map fun pieces => matched alike pieces text.toList

/-- A run of the text is the needle, character by character. -/
def Within (alike : Char → Char → Bool) (needle text : String) : Prop :=
  ∃ before run after, text.toList = before ++ run ++ after ∧
    List.Forall₂ (fun c d => alike c d) needle.toList run

/-! ### Escaped texts -/

theorem pieces?_cons {c : Char} (h : ¬isSpecial c) (rest : List Char) :
    pieces? (c :: rest) = (pieces? rest).map (.itself c :: ·) := by
  have hne : c ≠ '\\' ∧ c ≠ '%' ∧ c ≠ '_' := by simpa [isSpecial, and_assoc] using h
  rw [pieces?] <;> simp [hne]

/-- An escaped character is itself, whatever follows. -/
theorem pieces?_escapeChar (c : Char) (rest : List Char) :
    pieces? (escapeChar c ++ rest) = (pieces? rest).map (.itself c :: ·) := by
  by_cases hspecial : isSpecial c
  · rw [escapeChar, if_pos hspecial]
    rfl
  · rw [escapeChar, if_neg hspecial]
    exact pieces?_cons hspecial rest

theorem pieces?_escapeChars (cs rest : List Char) :
    pieces? (escapeChars cs ++ rest) = (pieces? rest).map (cs.map .itself ++ ·) := by
  induction cs with
  | nil => simp
  | cons c cs ih =>
    rw [escapeChars_cons, List.append_assoc, pieces?_escapeChar, ih, Option.map_map]
    rfl

theorem pieces?_containing (needle : String) :
    pieces? (containing needle).toList = some (.run :: (needle.toList.map .itself ++ [.run])) := by
  have htext : (containing needle).toList = '%' :: (escapeChars needle.toList ++ ['%']) := by
    simp [containing, escape]
  rw [htext, pieces?, pieces?_escapeChars]
  rfl

/-! ### Matching -/

section Matching

variable {alike : Char → Char → Bool}

theorem matched_run {rest : List Piece} {text : List Char} :
    matched alike (.run :: rest) text ↔
      ∃ before after, before ++ after = text ∧ matched alike rest after := by
  rw [matched, List.any_eq_true]
  constructor
  · rintro ⟨after, hafter, hrest⟩
    obtain ⟨before, htext⟩ := (List.mem_tails after text).mp hafter
    exact ⟨before, after, htext, hrest⟩
  · rintro ⟨before, after, htext, hrest⟩
    exact ⟨after, (List.mem_tails after text).mpr ⟨before, htext⟩, hrest⟩

/-- Characters that are themselves match a run of as many that are the same. -/
theorem matched_itself {cs : List Char} {rest : List Piece} {text : List Char} :
    matched alike (cs.map .itself ++ rest) text ↔ ∃ run after, run ++ after = text ∧
      List.Forall₂ (fun c d => alike c d) cs run ∧ matched alike rest after := by
  induction cs generalizing text with
  | nil => simp
  | cons c cs ih =>
    cases text with
    | nil => simp [matched]
    | cons d text =>
      rw [List.map_cons, List.cons_append, matched, Bool.and_eq_true, ih]
      constructor
      · rintro ⟨hd, run, after, rfl, hrun, hrest⟩
        exact ⟨d :: run, after, rfl, .cons hd hrun, hrest⟩
      · rintro ⟨run, after, htext, hrun, hrest⟩
        cases hrun with
        | cons hd hrun =>
          obtain ⟨rfl, rfl⟩ := List.cons.inj htext
          exact ⟨hd, _, after, rfl, hrun, hrest⟩

/-- The pattern that looks for a text matches the texts that hold it, and no others. -/
theorem matches?_containing_iff {needle text : String} :
    matches? alike (containing needle) text = some true ↔ Within alike needle text := by
  have hend : ∀ after : List Char, matched alike [.run] after := fun after =>
    matched_run.mpr ⟨after, [], List.append_nil after, rfl⟩
  rw [matches?, pieces?_containing, Option.map_some, Option.some_inj, matched_run]
  constructor
  · rintro ⟨before, behind, htext, hbehind⟩
    obtain ⟨run, after, rfl, hrun, -⟩ := matched_itself.mp hbehind
    exact ⟨before, run, after, by rw [← htext, List.append_assoc], hrun⟩
  · rintro ⟨before, run, after, htext, hrun⟩
    refine ⟨before, run ++ after, by rw [htext, List.append_assoc], ?_⟩
    exact matched_itself.mpr ⟨run, after, rfl, hrun, hend after⟩

example : matches? (fun c d => c.toLower = d.toLower) (containing "A_%") "xa_%x" = some true := by
  decide

example : matches? (fun c d => c.toLower = d.toLower) (containing "A_%") "xab%x" = some false := by
  decide

end Matching

end PagedQuery.Like
