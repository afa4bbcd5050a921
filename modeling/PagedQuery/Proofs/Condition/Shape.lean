import PagedQuery.Proofs.Clause.Written

/-! Conditions of the same shape: built alike on the same columns with as many values, whatever the
values are. -/

namespace PagedQuery.Condition

mutual
/-- Two conditions that differ in their values only. -/
inductive SameShape : Condition → Condition → Prop where
  | compare (column : String) (op : Comparison) (v w : Arg) :
    SameShape (.compare column op v) (.compare column op w)
  | contains (column needle other : String) :
    SameShape (.contains column needle) (.contains column other)
  | oneOf (column : String) (v w : Arg) {vs ws : List Arg} (h : vs.length = ws.length) :
    SameShape (.oneOf column v vs) (.oneOf column w ws)
  | isNull (column : String) : SameShape (.isNull column) (.isNull column)
  | anyOf {c d : Condition} {cs ds : List Condition} (h : SameShape c d)
    (hrest : AllSameShape cs ds) : SameShape (.anyOf c cs) (.anyOf d ds)

/-- As many conditions, and each of the shape of the other one at its place. -/
inductive AllSameShape : List Condition → List Condition → Prop where
  | nil : AllSameShape [] []
  | cons {c d : Condition} {cs ds : List Condition} (h : SameShape c d)
    (hrest : AllSameShape cs ds) : AllSameShape (c :: cs) (d :: ds)
end

theorem AllSameShape.append {cs ds cs' ds' : List Condition} (h : AllSameShape cs ds)
    (h' : AllSameShape cs' ds') : AllSameShape (cs ++ cs') (ds ++ ds') := by
  induction cs generalizing ds with
  | nil =>
    cases h
    exact h'
  | cons c rest ih =>
    cases h with
    | cons hc hrest => exact .cons hc (ih hrest)

theorem segments_moreSlots {vs ws : List Arg} (h : vs.length = ws.length) :
    (moreSlots vs).segments = (moreSlots ws).segments := by
  induction vs generalizing ws with
  | nil => rw [List.eq_nil_of_length_eq_zero h.symm]
  | cons v rest ih =>
    cases ws with
    | nil => nomatch h
    | cons w others => simp [moreSlots, ih (Nat.succ.inj h)]

mutual
/-- The texts around the slots follow from the shape. -/
theorem SameShape.segments_eq {c d : Condition} : SameShape c d →
    c.clause.segments = d.clause.segments
  | .compare .. | .contains .. | .isNull _ => rfl
  | .oneOf column v w h => by simp [clause, segments_moreSlots h]
  | .anyOf h hrest => by simp [clause, h.segments_eq, hrest.segments_eq]

theorem AllSameShape.segments_eq {cs ds : List Condition} : AllSameShape cs ds →
    (alternatives cs).segments = (alternatives ds).segments
  | .nil => rfl
  | .cons h hrest => by simp [alternatives, h.segments_eq, hrest.segments_eq]
end

end PagedQuery.Condition
