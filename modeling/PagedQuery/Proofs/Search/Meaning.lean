import PagedQuery.Proofs.Condition.Parts
import PagedQuery.Proofs.Search.Lexing

/-! What conditions mean, and that the texts of their clauses mean the same with the values in place
of the placeholders. -/

namespace PagedQuery

namespace Condition

mutual
/-- The truth value of a condition: the parts of a group are alternatives, and a text that is looked
for is matched as its pattern. -/
def holds (interpret : Atom Arg → Truth) : Condition → Truth
  | compare column op value => interpret (.compare column op value)
  | contains column needle => interpret (.like column (.value (.text (pattern needle))))
  | oneOf column first rest => interpret (.oneOf column first rest)
  | isNull column => interpret (.isNull column)
  | anyOf first rest => (holds interpret first).or (someHolds interpret rest)

/-- The truth value of alternatives. -/
def someHolds (interpret : Atom Arg → Truth) : List Condition → Truth
  | [] => .false
  | c :: rest => (holds interpret c).or (someHolds interpret rest)
end

end Condition

/-- From `n` on, the numbers stand for the values in order. -/
def Binds (bound : Nat → Option Arg) (n : Nat) (values : List Arg) : Prop :=
  ∀ i v, values[i]? = some v → bound (n + i) = some v

namespace Binds

variable {bound : Nat → Option Arg} {n : Nat}

theorem cons {v : Arg} {vs : List Arg} (h : Binds bound n (v :: vs)) :
    bound n = some v ∧ Binds bound (n + 1) vs := by
  refine ⟨h 0 v rfl, fun i w hw => ?_⟩
  rw [Nat.add_assoc, Nat.add_comm 1]
  exact h (i + 1) w hw

theorem append {vs ws : List Arg} (h : Binds bound n (vs ++ ws)) :
    Binds bound n vs ∧ Binds bound (n + vs.length) ws := by
  constructor
  · intro i v hv
    obtain ⟨hi, -⟩ := List.getElem?_eq_some_iff.mp hv
    exact h i v (by rw [List.getElem?_append_left hi, hv])
  · intro i w hw
    rw [Nat.add_assoc]
    exact h (vs.length + i) w (by rw [List.getElem?_append_right (by omega)]; simpa using hw)

theorem mapM_range' {vs : List Arg} (h : Binds bound n vs) :
    (List.range' n vs.length).mapM bound = some vs := by
  induction vs generalizing n with
  | nil => rfl
  | cons v rest ih =>
    obtain ⟨hv, hrest⟩ := h.cons
    rw [List.length_cons, List.range'_succ, List.mapM_cons, hv, ih hrest]
    rfl

end Binds

namespace SearchCondition

/-- A text of some level of the grammar, with the values in place of the placeholders, has the truth
value that is said. -/
def Means (level : Level) (cs : List Char) (bound : Nat → Option Arg)
    (meaning : (Atom Arg → Truth) → Truth) : Prop :=
  ∃ ts e f, Spells cs ts ∧ Derives level ts e ∧ e.replace bound = some f ∧
    ∀ interpret, f.eval interpret = meaning interpret

section Means

variable {cs ds : List Char} {bound : Nat → Option Arg} {m m' : (Atom Arg → Truth) → Truth}

theorem means_predicate {a : Atom Nat} {b : Atom Arg} (h : Spells cs a.tokens)
    (hb : a.replace bound = some b) : Means .factor cs bound fun interpret => interpret b :=
  ⟨_, _, .atom b, h, .predicate a, by rw [replace, hb]; rfl, fun _ => rfl⟩

theorem Means.term (h : Means .factor cs bound m) : Means .term cs bound m := by
  obtain ⟨ts, e, f, hs, hd, hf, hm⟩ := h
  exact ⟨ts, e, f, hs, .factor hd, hf, hm⟩

theorem Means.condition (h : Means .term cs bound m) : Means .condition cs bound m := by
  obtain ⟨ts, e, f, hs, hd, hf, hm⟩ := h
  exact ⟨ts, e, f, hs, .term hd, hf, hm⟩

theorem Means.group (h : Means .condition cs bound m) :
    Means .factor ('(' :: (cs ++ [')'])) bound m := by
  obtain ⟨ts, e, f, hs, hd, hf, hm⟩ := h
  have hopening : Spells ['('] [.opening] := rfl
  have hclosing : Spells [')'] [.closing] := rfl
  have hbracketed : Spells ('(' :: (cs ++ [')'])) (.opening :: (ts ++ [.closing])) :=
    Spells.nil.divided (.inr rfl) hopening (hs.divided (.inr rfl) hclosing .nil)
  exact ⟨_, e, f, hbracketed, .group hd, hf, hm⟩

theorem Means.and (h : Means .term cs bound m) (h' : Means .factor ds bound m') :
    Means .term (cs ++ ' ' :: ("AND".toList ++ ' ' :: ds)) bound
      fun interpret => (m interpret).and (m' interpret) := by
  obtain ⟨ts, e, f, hs, hd, hf, hm⟩ := h
  obtain ⟨us, e', f', hs', hd', hf', hm'⟩ := h'
  have hword : Spells "AND".toList [.and] := rfl
  refine ⟨_, _, .and f f', hs.blank (hword.blank hs'), .and hd hd', by rw [replace, hf, hf']; rfl,
    fun interpret => ?_⟩
  rw [eval, hm, hm']

theorem Means.or (h : Means .condition cs bound m) (h' : Means .term ds bound m') :
    Means .condition (cs ++ ' ' :: ("OR".toList ++ ' ' :: ds)) bound
      fun interpret => (m interpret).or (m' interpret) := by
  obtain ⟨ts, e, f, hs, hd, hf, hm⟩ := h
  obtain ⟨us, e', f', hs', hd', hf', hm'⟩ := h'
  have hword : Spells "OR".toList [.or] := rfl
  refine ⟨_, _, .or f f', hs.blank (hword.blank hs'), .or hd hd', by rw [replace, hf, hf']; rfl,
    fun interpret => ?_⟩
  rw [eval, hm, hm']

end Means

end SearchCondition

namespace Condition

open SearchCondition Clause

/-- Every column of the condition is a name that needs no quotes. -/
def Named (c : Condition) : Prop := ∀ column ∈ c.columns, IsName column

instance (c : Condition) : Decidable c.Named :=
  inferInstanceAs (Decidable (∀ column ∈ c.columns, IsName column))

theorem named_anyOf {first : Condition} {rest : List Condition} (h : (anyOf first rest).Named) :
    first.Named ∧ ∀ c ∈ rest, c.Named := by
  simp only [Named, columns, allColumns_eq_flatMap, List.mem_append, List.mem_flatMap] at h ⊢
  exact ⟨fun column hc => h column (.inl hc),
    fun c hc column hcolumn => h column (.inr ⟨c, hc, hcolumn⟩)⟩

/-- The further values of a list, behind one of them. -/
theorem spells_moreSlots {cs : List Char} {ts : List Token} (h : Spells cs ts) (vs : List Arg)
    (n : Nat) : Spells (cs ++ ((moreSlots vs).written n).toList)
      (ts ++ ((List.range' n vs.length).flatMap (fun i => [.comma, .slot i]) ++ [.closing])) := by
  induction vs generalizing cs ts n with
  | nil =>
    have hclosing : Spells [')'] [.closing] := rfl
    simpa [moreSlots] using h.divided (.inr rfl) hclosing .nil
  | cons v rest ih =>
    have hcomma : Spells [','] [.comma] := rfl
    have hslot : Spells (cs ++ ',' :: ([] ++ ' ' :: (placeholder n).toList))
        (ts ++ ([.comma] ++ ([] ++ [.slot n]))) :=
      h.divided (.inr rfl) hcomma (Spells.nil.blank (Spells.slot n))
    have hrest := ih hslot (n + 1)
    simpa [moreSlots, List.range'_succ, List.append_assoc] using hrest

section Predicates

variable {bound : Nat → Option Arg} {n : Nat} {column : String} (hcolumn : IsName column)
include hcolumn

theorem means_compare {op : Comparison} {value : Arg} (hb : bound n = some value) :
    Means .factor ((compare column op value).clause.written n).toList bound
      fun interpret => (compare column op value).holds interpret := by
  have hspells : Spells (column.toList ++ ' ' :: (op.sql.toList ++ ' ' :: (placeholder n).toList))
      (Atom.compare column op n).tokens :=
    (Spells.name hcolumn).blank ((Spells.op op).blank (Spells.slot n))
  have hreplace : (Atom.compare column op n).replace bound = some (.compare column op value) := by
    rw [Atom.replace, hb]
    rfl
  simpa [clause, holds] using means_predicate hspells hreplace

theorem means_contains {needle : String}
    (hb : bound n = some (.value (.text (pattern needle)))) :
    Means .factor ((contains column needle).clause.written n).toList bound
      fun interpret => (contains column needle).holds interpret := by
  have hword : Spells "ILIKE".toList [.ilike] := rfl
  have hspells : Spells (column.toList ++ ' ' :: ("ILIKE".toList ++ ' ' :: (placeholder n).toList))
      (Atom.like column n).tokens :=
    (Spells.name hcolumn).blank (hword.blank (Spells.slot n))
  have hreplace : (Atom.like column n).replace bound =
      some (.like column (.value (.text (pattern needle)))) := by
    rw [Atom.replace, hb]
    rfl
  simpa [clause, holds] using means_predicate hspells hreplace

theorem means_oneOf {first : Arg} {rest : List Arg} (hb : Binds bound n (first :: rest)) :
    Means .factor ((oneOf column first rest).clause.written n).toList bound
      fun interpret => (oneOf column first rest).holds interpret := by
  obtain ⟨hfirst, hrest⟩ := hb.cons
  have hword : Spells "IN".toList [.in] := rfl
  have hopening : Spells ['('] [.opening] := rfl
  have hlist : Spells ([] ++ '(' :: ((placeholder n).toList ++
        ((moreSlots rest).written (n + 1)).toList))
      ([] ++ ([.opening] ++ ([.slot n] ++ ((List.range' (n + 1) rest.length).flatMap
        (fun i => [.comma, .slot i]) ++ [.closing])))) :=
    Spells.nil.divided (.inr rfl) hopening (spells_moreSlots (Spells.slot n) rest (n + 1))
  have hspells : Spells (column.toList ++ ' ' :: ("IN".toList ++ ' ' :: ([] ++ '(' ::
        ((placeholder n).toList ++ ((moreSlots rest).written (n + 1)).toList))))
      (Atom.oneOf column n (List.range' (n + 1) rest.length)).tokens := by
    simpa [Atom.tokens] using (Spells.name hcolumn).blank (hword.blank hlist)
  have hreplace : (Atom.oneOf column n (List.range' (n + 1) rest.length)).replace bound =
      some (.oneOf column first rest) := by
    rw [Atom.replace, hfirst, hrest.mapM_range']
    rfl
  simpa [clause, holds] using means_predicate hspells hreplace

theorem means_isNull : Means .factor ((isNull column).clause.written n).toList bound
    fun interpret => (isNull column).holds interpret := by
  have his : Spells "IS".toList [.is] := rfl
  have hnull : Spells "NULL".toList [.null] := rfl
  have hspells : Spells (column.toList ++ ' ' :: ("IS".toList ++ ' ' :: "NULL".toList))
      (Atom.isNull column).tokens :=
    (Spells.name hcolumn).blank (his.blank hnull)
  have hreplace : (Atom.isNull column : Atom Nat).replace bound = some (.isNull column) := rfl
  simpa [clause, holds] using means_predicate hspells hreplace

end Predicates

section Groups

variable {bound : Nat → Option Arg}

mutual
/-- The text of a condition means the condition. -/
theorem means_clause (n : Nat) : (c : Condition) → c.Named → Binds bound n c.values →
    Means .factor (c.clause.written n).toList bound fun interpret => c.holds interpret
  | compare column op value, hnamed, hb =>
    means_compare (hnamed column (by simp [columns])) hb.cons.1
  | contains column needle, hnamed, hb =>
    means_contains (hnamed column (by simp [columns])) hb.cons.1
  | oneOf column first rest, hnamed, hb => means_oneOf (hnamed column (by simp [columns])) hb
  | isNull column, hnamed, _ => means_isNull (hnamed column (by simp [columns]))
  | anyOf first rest, hnamed, hb => by
    obtain ⟨hfirstNamed, hrestNamed⟩ := named_anyOf hnamed
    obtain ⟨hfirstBinds, hrestBinds⟩ := hb.append
    have hfirst := means_clause n first hfirstNamed hfirstBinds
    rw [← slotCount_clause] at hrestBinds
    obtain ⟨body, htext, hmeans⟩ :=
      means_alternatives _ rest hrestNamed hrestBinds hfirst.term.condition
    have hgroup := hmeans.group
    simpa [clause, htext, holds] using hgroup

/-- Alternatives behind others: all of them are one condition, and the bracket closes it. -/
theorem means_alternatives (n : Nat) : (cs : List Condition) → (∀ c ∈ cs, c.Named) →
    Binds bound n (allValues cs) → {before : List Char} → {m : (Atom Arg → Truth) → Truth} →
    Means .condition before bound m → ∃ body, ((alternatives cs).written n).toList = body ++ [')'] ∧
      Means .condition (before ++ body) bound fun interpret =>
        (m interpret).or (someHolds interpret cs)
  | [], _, _, before, m, h => by
    refine ⟨[], by simp [alternatives], ?_⟩
    simpa [someHolds] using h
  | c :: rest, hnamed, hb, before, m, h => by
    rw [List.forall_mem_cons] at hnamed
    obtain ⟨hcBinds, hrestBinds⟩ := hb.append
    have hc := means_clause n c hnamed.1 hcBinds
    rw [← slotCount_clause] at hrestBinds
    obtain ⟨body, htext, hmeans⟩ := means_alternatives _ rest hnamed.2 hrestBinds (h.or hc.term)
    refine ⟨' ' :: ("OR".toList ++ ' ' :: (c.clause.written n).toList) ++ body, ?_, ?_⟩
    · simp [alternatives, htext]
    · simpa [someHolds, Truth.or_assoc] using hmeans
end

end Groups

end Condition

end PagedQuery
