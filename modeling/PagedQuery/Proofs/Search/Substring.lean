import PagedQuery.Proofs.Condition.Parts
import PagedQuery.Proofs.Search.Like

/-! Substring conditions: what a pattern of LIKE means, apart from how it is matched, and that the
pattern of such a condition means its needle, character by character. -/

namespace PagedQuery.Like

/-- The parts of a pattern cover the text, in order and from end to end. -/
inductive Covers (alike : Char → Char → Bool) : List Piece → List Char → Prop where
  | nil : Covers alike [] []
  | run {rest : List Piece} {after : List Char} (before : List Char)
      (h : Covers alike rest after) : Covers alike (.run :: rest) (before ++ after)
  | one {rest : List Piece} {text : List Char} (d : Char) (h : Covers alike rest text) :
      Covers alike (.one :: rest) (d :: text)
  | itself {rest : List Piece} {text : List Char} {c d : Char} (hd : alike c d)
      (h : Covers alike rest text) : Covers alike (.itself c :: rest) (d :: text)

variable {alike : Char → Char → Bool}

/-- Matching by trying every rest of the text finds the covers that there are. -/
theorem matched_iff_covers {pieces : List Piece} {text : List Char} :
    matched alike pieces text ↔ Covers alike pieces text := by
  induction pieces generalizing text with
  | nil =>
    rw [matched, List.isEmpty_iff]
    constructor
    · rintro rfl
      exact .nil
    · rintro ⟨⟩
      rfl
  | cons piece rest ih =>
    cases piece with
    | run =>
      rw [matched_run]
      constructor
      · rintro ⟨before, after, rfl, hrest⟩
        exact .run before (ih.mp hrest)
      · rintro (_ | ⟨before, hrest⟩)
        exact ⟨before, _, rfl, ih.mpr hrest⟩
    | one =>
      cases text with
      | nil => exact iff_of_false (by simp [matched]) (by rintro ⟨⟩)
      | cons d text =>
        rw [matched, ih]
        constructor
        · exact .one d
        · rintro ⟨⟩
          assumption
    | itself c =>
      cases text with
      | nil => exact iff_of_false (by simp [matched]) (by rintro ⟨⟩)
      | cons d text =>
        rw [matched, Bool.and_eq_true, ih]
        constructor
        · rintro ⟨hd, hrest⟩
          exact .itself hd hrest
        · rintro ⟨⟩
          constructor <;> assumption

theorem matches?_eq_some_iff {pattern text : String} {pieces : List Piece}
    (h : pieces? pattern.toList = some pieces) {b : Bool} :
    matches? alike pattern text = some b ↔ matched alike pieces text.toList = b := by
  rw [matches?, h, Option.map_some, Option.some_inj]

/-- The pattern that a substring condition binds is well formed: between two runs of any characters
every character of the needle is itself, a special one too. Of every text it says whether a run of
it is the needle; and where special characters are like nothing else, each of the needle stands in
that run as it is. -/
theorem contains_covers_literally (alike : Char → Char → Bool) (column needle : String) :
    ∃ pattern pieces, (Condition.contains column needle).args = [.value (.text pattern)] ∧
      pieces? pattern.toList = some pieces ∧
      pieces = .run :: (needle.toList.map .itself ++ [.run]) ∧
      ∀ text : String,
        (matches? alike pattern text = some true ↔ Covers alike pieces text.toList) ∧
        (matches? alike pattern text = some true ↔ Within alike needle text) ∧
        (matches? alike pattern text = some false ↔ ¬Within alike needle text) ∧
        ((∀ c d, isSpecial c → alike c d → c = d) → Within alike needle text →
          ∃ before run after, text.toList = before ++ run ++ after ∧
            List.Forall₂ (fun c d => alike c d ∧ (isSpecial c → c = d)) needle.toList run) := by
  refine ⟨containing needle, _, rfl, pieces?_containing needle, rfl, fun text => ?_⟩
  have hpieces := pieces?_containing needle
  have hwithin : matches? alike (containing needle) text = some true ↔ Within alike needle text :=
    matches?_containing_iff
  refine ⟨?_, hwithin, ?_, ?_⟩
  · rw [matches?_eq_some_iff hpieces]
    exact matched_iff_covers
  · rw [← hwithin, matches?_eq_some_iff hpieces, matches?_eq_some_iff hpieces,
      Bool.not_eq_true]
  · rintro hspecial ⟨before, run, after, htext, hrun⟩
    exact ⟨before, run, after, htext, hrun.imp fun c d hd => ⟨hd, fun hc => hspecial c d hc hd⟩⟩

end PagedQuery.Like
