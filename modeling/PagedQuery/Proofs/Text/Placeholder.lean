import Mathlib.Data.List.Basic

/-! Scanning a text for dollar signs and the numbers behind them. -/

namespace PagedQuery.Text

/-- The runs of digits behind the dollar signs of a text, in order, each as long as it can be. -/
def numerals : List Char → List (List Char)
  | [] => []
  | c :: cs => if c = '$' then cs.takeWhile Char.isDigit :: numerals cs else numerals cs

/-- The text without the runs of digits behind its dollar signs. `behind` says that the text
continues such a run. -/
def unnumbered (behind : Bool) : List Char → List Char
  | [] => []
  | c :: cs =>
    if behind && c.isDigit then unnumbered true cs else c :: unnumbered (c == '$') cs

/-- The text has no dollar sign. -/
def DollarFree (s : String) : Prop := '$' ∉ s.toList

instance (s : String) : Decidable (DollarFree s) :=
  inferInstanceAs (Decidable ('$' ∉ s.toList))

theorem DollarFree.append {s t : String} (hs : DollarFree s) (ht : DollarFree t) :
    DollarFree (s ++ t) := by
  rw [DollarFree, String.toList_append, List.mem_append, not_or]
  exact ⟨hs, ht⟩

theorem dollarFree_intercalate {separator : String} {parts : List String}
    (hs : DollarFree separator) (hparts : ∀ p ∈ parts, DollarFree p) :
    DollarFree (String.intercalate separator parts) := by
  induction parts with
  | nil => simp [DollarFree]
  | cons p rest ih =>
    rw [List.forall_mem_cons] at hparts
    cases rest with
    | nil => simpa using hparts.1
    | cons q rest =>
      rw [String.intercalate_cons_cons]
      exact (hparts.1.append hs).append (ih hparts.2)

/-- The text does not begin with a digit. -/
def NoDigitAhead (cs : List Char) : Prop := ∀ c ∈ cs.head?, c.isDigit = false

theorem NoDigitAhead.append {cs ds : List Char} (hc : NoDigitAhead cs) (hd : NoDigitAhead ds) :
    NoDigitAhead (cs ++ ds) := by
  cases cs with
  | nil => exact hd
  | cons c cs => exact hc

theorem takeWhile_isDigit {ds cs : List Char} (hds : ∀ d ∈ ds, d.isDigit)
    (hcs : NoDigitAhead cs) : (ds ++ cs).takeWhile Char.isDigit = ds := by
  rw [List.takeWhile_append_of_pos hds]
  cases cs with
  | nil => simp
  | cons c cs => simp [hcs c rfl]

theorem isDigit_toDigits (n : Nat) : ∀ d ∈ Nat.toDigits 10 n, d.isDigit := fun _ hd =>
  Nat.isDigit_of_mem_toDigits (by decide) (by decide) hd

theorem dollarFree_repr (n : Nat) : DollarFree n.repr := by
  intro hmem
  rw [Nat.toList_repr] at hmem
  simpa using isDigit_toDigits n '$' hmem

theorem dollarFree_toString (n : Int64) : DollarFree (toString n) := by
  show DollarFree n.toInt.repr
  cases n.toInt with
  | ofNat m => exact dollarFree_repr m
  | negSucc m => exact DollarFree.append (by decide) (dollarFree_repr (m + 1))

theorem numerals_append {cs : List Char} (h : '$' ∉ cs) (ds : List Char) :
    numerals (cs ++ ds) = numerals ds := by
  induction cs with
  | nil => rfl
  | cons c cs ih =>
    rw [List.mem_cons, not_or] at h
    rw [List.cons_append, numerals, if_neg (Ne.symm h.1), ih h.2]

/-- A placeholder in front adds its number, when no digit stands behind it. -/
theorem numerals_placeholder (n : Nat) {cs : List Char} (h : NoDigitAhead cs) :
    numerals ('$' :: (Nat.toDigits 10 n ++ cs)) = Nat.toDigits 10 n :: numerals cs := by
  have hfree : '$' ∉ Nat.toDigits 10 n := fun hmem => by
    simpa using isDigit_toDigits n '$' hmem
  rw [numerals, if_pos rfl, takeWhile_isDigit (isDigit_toDigits n) h, numerals_append hfree]

theorem unnumbered_append {cs : List Char} (h : '$' ∉ cs) (ds : List Char) :
    unnumbered false (cs ++ ds) = cs ++ unnumbered false ds := by
  induction cs with
  | nil => rfl
  | cons c cs ih =>
    rw [List.mem_cons, not_or] at h
    have hc : (c == '$') = false := by simpa using Ne.symm h.1
    simp only [List.cons_append, unnumbered, Bool.false_and, Bool.false_eq_true, if_false, hc,
      ih h.2]

theorem unnumbered_true {cs : List Char} (h : NoDigitAhead cs) :
    unnumbered true cs = unnumbered false cs := by
  cases cs with
  | nil => rfl
  | cons c cs => simp [unnumbered, h c rfl]

/-- A placeholder in front loses its number, when no digit stands behind it. -/
theorem unnumbered_placeholder (n : Nat) {cs : List Char} (h : NoDigitAhead cs) :
    unnumbered false ('$' :: (Nat.toDigits 10 n ++ cs)) = '$' :: unnumbered false cs := by
  have hdigits : ∀ ds : List Char, (∀ d ∈ ds, d.isDigit) →
      unnumbered true (ds ++ cs) = unnumbered true cs := by
    intro ds hds
    induction ds with
    | nil => rfl
    | cons d ds ih =>
      rw [List.forall_mem_cons] at hds
      rw [List.cons_append, unnumbered, hds.1, Bool.true_and, if_pos rfl, ih hds.2]
  have hfalse : unnumbered false ('$' :: (Nat.toDigits 10 n ++ cs)) =
      '$' :: unnumbered true (Nat.toDigits 10 n ++ cs) := by
    simp [unnumbered]
  rw [hfalse, hdigits _ (isDigit_toDigits n), unnumbered_true h]

end PagedQuery.Text
