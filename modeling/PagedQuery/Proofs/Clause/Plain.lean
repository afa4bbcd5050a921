import PagedQuery.Proofs.Clause.Written
import PagedQuery.Proofs.Text.Placeholder

/-! Plain clauses: a scan of their rendered text finds their slots and nothing else, from left to
right and with consecutive numbers. -/

namespace PagedQuery.Clause

open Text

/-- A text that may stand behind a slot: it has no dollar sign and does not begin with a digit. -/
def Trailing (s : String) : Prop := DollarFree s ∧ NoDigitAhead s.toList

/-- No text of the clause has a dollar sign, and none behind a slot begins with a digit. -/
structure Plain (c : Clause) : Prop where
  lead : DollarFree c.lead
  trailing : ∀ s ∈ c.slots, Trailing s.2

/-- The clause may stand behind a slot: its text does not begin with a digit. -/
def Detached (c : Clause) : Prop := NoDigitAhead c.lead.toList

theorem toList_numbered_cons (n : Nat) (a : Arg) (after : String) (rest : List (Arg × String)) :
    (numbered n ((a, after) :: rest)).toList =
      '$' :: (Nat.toDigits 10 n ++ (after.toList ++ (numbered (n + 1) rest).toList)) := by
  simp [numbered, placeholder]

theorem noDigitAhead_numbered (n : Nat) (slots : List (Arg × String)) :
    NoDigitAhead (numbered n slots).toList := by
  cases slots with
  | nil => simp [numbered, NoDigitAhead]
  | cons s rest =>
    rw [toList_numbered_cons]
    simp [NoDigitAhead]

section Numbered

variable {slots : List (Arg × String)} (h : ∀ s ∈ slots, Trailing s.2) (n : Nat)
include h

theorem numerals_numbered :
    numerals (numbered n slots).toList = (List.range' n slots.length).map (Nat.toDigits 10) := by
  induction slots generalizing n with
  | nil => simp [numbered, numerals]
  | cons s rest ih =>
    rw [List.forall_mem_cons] at h
    obtain ⟨⟨hfree, hahead⟩, hrest⟩ := h
    rw [toList_numbered_cons,
      numerals_placeholder n (hahead.append (noDigitAhead_numbered (n + 1) rest)),
      numerals_append hfree, ih hrest, List.length_cons, List.range'_succ, List.map_cons]

theorem unnumbered_numbered :
    unnumbered false (numbered n slots).toList = slots.flatMap fun s => '$' :: s.2.toList := by
  induction slots generalizing n with
  | nil => simp [numbered, unnumbered]
  | cons s rest ih =>
    rw [List.forall_mem_cons] at h
    obtain ⟨⟨hfree, hahead⟩, hrest⟩ := h
    rw [toList_numbered_cons,
      unnumbered_placeholder n (hahead.append (noDigitAhead_numbered (n + 1) rest)),
      unnumbered_append hfree, ih hrest, List.flatMap_cons, List.cons_append]

end Numbered

/-- The numbers in the text of a plain clause are those of its slots. -/
theorem Plain.numerals_written {c : Clause} (h : c.Plain) (n : Nat) :
    numerals (c.written n).toList = (List.range' n c.slotCount).map (Nat.toDigits 10) := by
  rw [written, String.toList_append, numerals_append h.lead, numerals_numbered h.trailing,
    slotCount]

/-- Without the numbers, the text of a plain clause is the same from every start on. -/
theorem Plain.unnumbered_written {c : Clause} (h : c.Plain) (n : Nat) :
    unnumbered false (c.written n).toList =
      c.lead.toList ++ c.slots.flatMap fun s => '$' :: s.2.toList := by
  rw [written, String.toList_append, unnumbered_append h.lead, unnumbered_numbered h.trailing]

theorem plain_text {s : String} (h : DollarFree s) : (text s).Plain :=
  ⟨h, fun _ hs => nomatch hs⟩

theorem plain_slot (a : Arg) : (slot a).Plain := by
  refine ⟨by simp [slot, DollarFree], fun s hs => ?_⟩
  rw [slot, List.mem_singleton] at hs
  subst hs
  show Trailing ""
  exact ⟨by decide, by simp [NoDigitAhead]⟩

/-- Text in front of a plain clause. -/
theorem Plain.text_append {s : String} {c : Clause} (hs : DollarFree s) (hc : c.Plain) :
    (text s ++ c).Plain :=
  ⟨hs.append hc.lead, hc.trailing⟩

section Behind

variable {d : Clause} (hd : d.Plain) (hdetached : d.Detached)
include hd hdetached

/-- The text in front is free to begin with a digit, but when it does not, neither does the
whole. -/
theorem plain_behind {slots : List (Arg × String)} {lead : String} (hlead : DollarFree lead)
    (hslots : ∀ s ∈ slots, Trailing s.2) :
    (behind lead slots d).Plain ∧
      (NoDigitAhead lead.toList → (behind lead slots d).Detached) := by
  induction slots generalizing lead with
  | nil =>
    refine ⟨Plain.text_append hlead hd, fun hahead => ?_⟩
    show NoDigitAhead (lead ++ d.lead).toList
    rw [String.toList_append]
    exact hahead.append hdetached
  | cons s rest ih =>
    rw [List.forall_mem_cons] at hslots
    obtain ⟨⟨hfree, hahead⟩, hrest⟩ := hslots
    obtain ⟨htail, htailDetached⟩ := ih hfree hrest
    refine ⟨⟨hlead, ?_⟩, fun h => h⟩
    exact List.forall_mem_cons.mpr ⟨⟨htail.lead, htailDetached hahead⟩, htail.trailing⟩

/-- Plain clauses stand one behind the other when the second may stand behind a slot. -/
theorem Plain.append {c : Clause} (hc : c.Plain) : (c ++ d).Plain :=
  (plain_behind hd hdetached hc.lead hc.trailing).1

end Behind

/-- Text that begins with something other than a digit lets a clause stand behind a slot. -/
theorem detached_text_append {s : String} {c : Clause} (hs : NoDigitAhead s.toList)
    (hne : s.toList ≠ []) : (text s ++ c).Detached := by
  show NoDigitAhead (s ++ c.lead).toList
  rw [String.toList_append]
  obtain ⟨d, ds, hcons⟩ := List.exists_cons_of_ne_nil hne
  rw [hcons] at hs ⊢
  exact hs

end PagedQuery.Clause
