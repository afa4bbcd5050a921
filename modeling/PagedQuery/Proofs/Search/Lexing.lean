import Mathlib.Data.List.SplitBy
import PagedQuery.Proofs.Search.Grammar
import PagedQuery.Proofs.Text.Reading

/-! The tokens of a text: words, signs, brackets and commas between blanks. -/

namespace PagedQuery

namespace SearchCondition

inductive CharKind where
  | blank | mark | sign | word
deriving DecidableEq

/-- What a character is to the division of a text: blanks and marks stand alone, signs and words are
as long as they can be. -/
def charKind (c : Char) : CharKind :=
  if c = ' ' then .blank
  else if c = '(' ∨ c = ')' ∨ c = ',' then .mark
  else if c = '<' ∨ c = '>' ∨ c = '=' then .sign
  else .word

/-- Two neighbours belong to one token. -/
def together (a b : Char) : Bool :=
  charKind a = charKind b && (charKind a = .sign || charKind a = .word)

/-- A character of names that need no quotes. -/
def isNameChar (c : Char) : Bool := c.isLower || c.isDigit || c = '_' || c = '.'

/-- The tokens that are always spelled alike. -/
def fixedTokens : List (String × Token) :=
  [("AND", .and), ("OR", .or), ("ILIKE", .ilike), ("IN", .in), ("IS", .is), ("NULL", .null),
    ("(", .opening), (")", .closing), (",", .comma), ("=", .op .eq), ("<>", .op .notEq),
    (">", .op .gt), (">=", .op .gte), ("<", .op .lt), ("<=", .op .lte)]

/-- The token that a run of characters spells. -/
def token? (run : List Char) : Option Token :=
  if run.all isNameChar then some (.name (String.ofList run))
  else match run with
    | '$' :: digits => (Text.readDigits? digits).map .slot
    | _ => (fixedTokens.find? fun entry => entry.1.toList == run).map (·.2)

/-- The tokens of a text. -/
def tokens? (cs : List Char) : Option (List Token) :=
  ((cs.splitBy together).filter (· ≠ [' '])).mapM token?

/-- The text spells the tokens. -/
def Spells (cs : List Char) (ts : List Token) : Prop := tokens? cs = some ts

theorem Spells.nil : Spells [] [] := rfl

/-- A text may be divided where two neighbours do not belong together. -/
theorem Spells.append {cs ds : List Char} {ts us : List Token} (h : Spells cs ts)
    (h' : Spells ds us) (hapart : ∀ a ∈ cs.getLast?, ∀ b ∈ ds.head?, together a b = false) :
    Spells (cs ++ ds) (ts ++ us) := by
  have hsplit := List.splitBy_append hapart
  rw [Spells, tokens?] at h h' ⊢
  rw [hsplit, List.filter_append, List.mapM_append, h, h']
  rfl

theorem not_together {m : Char} (hm : charKind m = .blank ∨ charKind m = .mark) (a : Char) :
    together a m = false ∧ together m a = false := by
  rcases hm with hm | hm <;> cases ha : charKind a <;> simp [together, hm, ha]

/-- A blank or a mark divides a text, whatever stands at its sides. -/
theorem Spells.divided {cs ds : List Char} {ts ms us : List Token} {m : Char}
    (hm : charKind m = .blank ∨ charKind m = .mark) (h : Spells cs ts) (hmark : Spells [m] ms)
    (h' : Spells ds us) : Spells (cs ++ m :: ds) (ts ++ (ms ++ us)) := by
  have hbehind : Spells ([m] ++ ds) (ms ++ us) := by
    refine hmark.append h' fun a ha b _ => ?_
    obtain rfl : m = a := Option.some.inj ha
    exact (not_together hm b).2
  refine h.append hbehind fun a _ b hb => ?_
  obtain rfl : m = b := Option.some.inj hb
  exact (not_together hm a).1

theorem Spells.blank {cs ds : List Char} {ts us : List Token} (h : Spells cs ts)
    (h' : Spells ds us) : Spells (cs ++ ' ' :: ds) (ts ++ us) := by
  have hblank : Spells [' '] [] := rfl
  exact h.divided (.inl rfl) hblank h'

/-- Characters of one kind, a sign or a word, spell one token. -/
theorem Spells.run {kind : CharKind} (hkind : kind = .sign ∨ kind = .word) {run : List Char}
    (hne : run ≠ []) (hrun : ∀ a ∈ run, charKind a = kind) {t : Token} (ht : token? run = some t) :
    Spells run [t] := by
  have hchain : run.IsChain fun a b => together a b := by
    rw [List.isChain_iff_getElem]
    intro i hi
    have ha := hrun _ (List.getElem_mem (Nat.lt_of_succ_lt hi))
    have hb := hrun _ (List.getElem_mem hi)
    rcases hkind with rfl | rfl <;> simp [together, ha, hb]
  have hblank : run ≠ [' '] := by
    rintro rfl
    have hspace := hrun ' ' (by simp)
    rcases hkind with rfl | rfl <;> nomatch hspace
  rw [Spells, tokens?, List.splitBy_of_isChain hne hchain]
  simp [hblank, ht]

/-- A name that needs no quotes. -/
def IsName (s : String) : Prop := s.toList ≠ [] ∧ s.toList.all isNameChar

instance (s : String) : Decidable (IsName s) :=
  inferInstanceAs (Decidable (s.toList ≠ [] ∧ s.toList.all isNameChar))

theorem charKind_of_isNameChar {c : Char} (h : isNameChar c) : charKind c = .word := by
  have hne : ∀ d : Char, isNameChar d = false → c ≠ d := by
    rintro d hd rfl
    rw [hd] at h
    nomatch h
  simp [charKind, hne ' ' rfl, hne '(' rfl, hne ')' rfl, hne ',' rfl, hne '<' rfl, hne '>' rfl,
    hne '=' rfl]

theorem Spells.name {s : String} (h : IsName s) : Spells s.toList [.name s] := by
  have hkind : ∀ c ∈ s.toList, charKind c = .word := fun c hc =>
    charKind_of_isNameChar (List.all_eq_true.mp h.2 c hc)
  refine Spells.run (.inr rfl) h.1 hkind ?_
  unfold token?
  rw [if_pos h.2, String.ofList_toList]

theorem Spells.op (op : Comparison) : Spells op.sql.toList [.op op] := by
  cases op <;> rfl

theorem Spells.slot (n : Nat) : Spells (Clause.placeholder n).toList [.slot n] := by
  have htext : (Clause.placeholder n).toList = '$' :: Nat.toDigits 10 n := by
    simp [Clause.placeholder]
  have hdigits : ∀ c ∈ Nat.toDigits 10 n, charKind c = .word := fun c hc =>
    charKind_of_isNameChar (by simp [isNameChar, Text.isDigit_toDigits n c hc])
  rw [htext]
  refine Spells.run (.inr rfl) (by simp) (List.forall_mem_cons.mpr ⟨rfl, hdigits⟩) ?_
  have hname : ('$' :: Nat.toDigits 10 n).all isNameChar = false := rfl
  rw [token?, hname]
  simp [Text.readDigits?_toDigits]

/-- The text is spelled and derived: it states the search condition. -/
def Parses (text : String) (e : SearchCondition Nat) : Prop :=
  ∃ ts, Spells text.toList ts ∧ Derives .condition ts e

theorem Parses.unique {text : String} {e f : SearchCondition Nat} (he : Parses text e)
    (hf : Parses text f) : f = e := by
  obtain ⟨ts, hts, hderives⟩ := he
  obtain ⟨us, hus, hderives'⟩ := hf
  obtain rfl : ts = us := Option.some.inj (hts.symm.trans hus)
  exact hderives.unique hderives'

end SearchCondition

end PagedQuery
