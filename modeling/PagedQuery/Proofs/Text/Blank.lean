import Mathlib.Data.List.TakeWhile
import PagedQuery.Text.Blank

/-! Blank texts, of which nothing is left between their ends, and what trimming leaves of others. -/

namespace PagedQuery.Text

/-- All characters are blank. -/
def Blank (s : String) : Prop := ∀ c ∈ s.toList, isBlank c

instance (s : String) : Decidable (Blank s) :=
  inferInstanceAs (Decidable (∀ c ∈ s.toList, isBlank c))

theorem trimStart_eq_nil_iff {cs : List Char} : trimStart cs = [] ↔ ∀ c ∈ cs, isBlank c :=
  List.dropWhile_eq_nil_iff

theorem trimChars_eq_nil_iff {cs : List Char} : trimChars cs = [] ↔ ∀ c ∈ cs, isBlank c := by
  have hsplit : cs.takeWhile isBlank ++ trimStart cs = cs := List.takeWhile_append_dropWhile
  rw [trimChars, trimEnd, List.reverse_eq_nil_iff, trimStart_eq_nil_iff]
  constructor
  · intro h c hc
    rw [← hsplit, List.mem_append] at hc
    rcases hc with hstart | hrest
    · exact List.mem_takeWhile_imp hstart
    · exact h c (List.mem_reverse.mpr hrest)
  · intro h c hc
    have hrest : c ∈ trimStart cs := List.mem_reverse.mp hc
    exact h c ((List.dropWhile_suffix isBlank).mem hrest)

theorem isEmpty_trim_iff {s : String} : (trim s).isEmpty ↔ Blank s := by
  rw [trim, String.isEmpty_iff, String.ofList_eq_empty_iff, trimChars_eq_nil_iff, Blank]

/-- A text is taken as it is unless it is blank. -/
theorem nonBlank?_eq_some_iff {s t : String} : nonBlank? s = some t ↔ ¬Blank s ∧ s = t := by
  unfold nonBlank?
  by_cases hblank : Blank s
  · rw [if_pos (isEmpty_trim_iff.mpr hblank)]
    simp [hblank]
  · rw [if_neg (mt isEmpty_trim_iff.mp hblank)]
    simp [hblank]

theorem forall_nonBlank?_iff {text : Option String} {P : String → Prop} :
    (∀ s ∈ text.bind nonBlank?, P s) ↔ ∀ s ∈ text, ¬Blank s → P s := by
  cases text with
  | none => simp
  | some s => simp [nonBlank?_eq_some_iff]

/-- There is a text, and not a blank one. -/
def HasText (text : Option String) : Prop := ∃ s ∈ text, ¬Blank s

theorem isSome_bind_nonBlank? {text : Option String} :
    (text.bind nonBlank?).isSome ↔ HasText text := by
  rw [Option.isSome_iff_exists, HasText]
  constructor
  · rintro ⟨t, ht⟩
    obtain ⟨s, hs, hst⟩ := Option.bind_eq_some_iff.mp ht
    exact ⟨s, hs, (nonBlank?_eq_some_iff.mp hst).1⟩
  · rintro ⟨s, hs, hblank⟩
    exact ⟨s, Option.bind_eq_some_iff.mpr ⟨s, hs, nonBlank?_eq_some_iff.mpr ⟨hblank, rfl⟩⟩⟩

instance (text : Option String) : Decidable (HasText text) :=
  decidable_of_iff _ isSome_bind_nonBlank?

/-- Trimming takes blank characters only. -/
theorem mem_trimChars {c : Char} {cs : List Char} (hc : c ∈ cs) (hblank : ¬isBlank c) :
    c ∈ trimChars cs := by
  have hstart : ∀ {ds : List Char}, c ∈ ds → c ∈ trimStart ds := fun {ds} hd => by
    rw [← List.takeWhile_append_dropWhile (p := isBlank) (l := ds), List.mem_append] at hd
    rcases hd with hfront | hrest
    · exact absurd (List.mem_takeWhile_imp hfront) hblank
    · exact hrest
  exact List.mem_reverse.mpr (hstart (List.mem_reverse.mpr (hstart hc)))

/-- A text is blank when nothing is left of it, and what is left is not blank. -/
theorem blank_trim_iff {s : String} : Blank (trim s) ↔ Blank s := by
  unfold Blank trim
  rw [String.toList_ofList]
  constructor
  · intro h c hc
    by_contra hblank
    exact hblank (h c (mem_trimChars hc hblank))
  · intro h
    rw [trimChars_eq_nil_iff.mpr h]
    exact List.forall_mem_nil _

/-! ### What is left by trimming -/

/-- No blank character stands at either end. -/
structure Trimmed (cs : List Char) : Prop where
  head : ∀ c ∈ cs.head?, ¬isBlank c
  last : ∀ c ∈ cs.getLast?, ¬isBlank c

theorem not_isBlank_head?_trimStart (cs : List Char) : ∀ c ∈ (trimStart cs).head?, ¬isBlank c := by
  intro c hc
  have hhead := List.head?_dropWhile_not isBlank cs
  rw [show (cs.dropWhile isBlank).head? = some c from hc] at hhead
  simpa using hhead

theorem trimStart_of_head? {cs : List Char} (h : ∀ c ∈ cs.head?, ¬isBlank c) :
    trimStart cs = cs := by
  cases cs with
  | nil => rfl
  | cons c cs => exact List.dropWhile_cons_of_neg (h c rfl)

/-- Trimming stops at characters that are not blank. -/
theorem trimmed_trimChars (cs : List Char) : Trimmed (trimChars cs) where
  head := by
    -- What is left after the back is trimmed is a front part of what was left before.
    have hfront : trimChars cs <+: trimStart cs := by
      have hback := List.dropWhile_suffix (l := (trimStart cs).reverse) isBlank
      rwa [← List.reverse_prefix, List.reverse_reverse] at hback
    intro c hc
    obtain ⟨after, hafter⟩ := hfront
    refine not_isBlank_head?_trimStart cs c ?_
    rw [← hafter, List.head?_append, Option.mem_def.mp hc]
    rfl
  last := by
    intro c hc
    rw [trimChars, trimEnd, List.getLast?_reverse] at hc
    exact not_isBlank_head?_trimStart _ c hc

theorem Trimmed.trimChars_eq {cs : List Char} (h : Trimmed cs) : trimChars cs = cs := by
  have hback : ∀ c ∈ cs.reverse.head?, ¬isBlank c := by
    rw [List.head?_reverse]
    exact h.last
  rw [trimChars, trimStart_of_head? h.head, trimEnd, trimStart_of_head? hback,
    List.reverse_reverse]

theorem toList_trim (s : String) : (trim s).toList = trimChars s.toList := String.toList_ofList

@[simp] theorem trim_trim (s : String) : trim (trim s) = trim s := by
  rw [trim, toList_trim, (trimmed_trimChars s.toList).trimChars_eq]
  rfl

theorem mem_of_mem_trimChars {c : Char} {cs : List Char} (h : c ∈ trimChars cs) : c ∈ cs := by
  have hstart : c ∈ trimStart cs :=
    List.mem_reverse.mp ((List.dropWhile_suffix isBlank).mem (List.mem_reverse.mp h))
  exact (List.dropWhile_suffix isBlank).mem hstart

end PagedQuery.Text
