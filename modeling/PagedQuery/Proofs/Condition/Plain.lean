import PagedQuery.Proofs.Clause.Plain
import PagedQuery.Proofs.Condition.Parts

/-! Conditions over columns without dollar signs have plain clauses, whatever values they bind. -/

namespace PagedQuery.Condition

open Clause Text

/-- No column of the condition has a dollar sign. -/
def DollarFree (c : Condition) : Prop := ∀ column ∈ c.columns, Text.DollarFree column

theorem dollarFree_anyOf {first : Condition} {rest : List Condition}
    (h : (anyOf first rest).DollarFree) : first.DollarFree ∧ ∀ c ∈ rest, c.DollarFree := by
  simp only [DollarFree, columns, allColumns_eq_flatMap, List.mem_append, List.mem_flatMap] at h ⊢
  exact ⟨fun column hc => h column (.inl hc),
    fun c hc column hcolumn => h column (.inr ⟨c, hc, hcolumn⟩)⟩

theorem dollarFree_sql (op : Comparison) : Text.DollarFree op.sql := by
  cases op <;> decide

theorem plain_moreSlots (vs : List Arg) : (moreSlots vs).Plain ∧ (moreSlots vs).Detached := by
  induction vs with
  | nil => exact ⟨plain_text (by decide), by simp [moreSlots, Detached, text, NoDigitAhead]⟩
  | cons v rest ih =>
    refine ⟨Plain.text_append (by decide) (Plain.append ih.1 ih.2 (plain_slot v)), ?_⟩
    exact detached_text_append (by simp [NoDigitAhead]) (by simp)

mutual
theorem plain_clause : (c : Condition) → c.DollarFree → c.clause.Plain
  | compare column op value, h => by
    have hcolumn : Text.DollarFree column := h column (by simp [columns])
    have htext : Text.DollarFree (column ++ " " ++ op.sql ++ " ") :=
      ((hcolumn.append (by decide)).append (dollarFree_sql op)).append (by decide)
    exact Plain.text_append htext (plain_slot value)
  | contains column needle, h => by
    have hcolumn : Text.DollarFree column := h column (by simp [columns])
    exact Plain.text_append (hcolumn.append (by decide)) (plain_slot _)
  | oneOf column first rest, h => by
    have hcolumn : Text.DollarFree column := h column (by simp [columns])
    obtain ⟨hmore, hdetached⟩ := plain_moreSlots rest
    exact Plain.text_append (hcolumn.append (by decide))
      (Plain.append hmore hdetached (plain_slot first))
  | isNull column, h => by
    have hcolumn : Text.DollarFree column := h column (by simp [columns])
    exact plain_text (hcolumn.append (by decide))
  | anyOf first rest, h => by
    obtain ⟨hfirst, hrest⟩ := dollarFree_anyOf h
    obtain ⟨hmore, hdetached⟩ := plain_alternatives rest hrest
    exact Plain.text_append (by decide) (Plain.append hmore hdetached (plain_clause first hfirst))

/-- Every further alternative begins with its keyword, and the last is followed by a bracket. -/
theorem plain_alternatives : (cs : List Condition) → (∀ c ∈ cs, c.DollarFree) →
    (alternatives cs).Plain ∧ (alternatives cs).Detached
  | [], _ => ⟨plain_text (by decide), by simp [alternatives, Detached, text, NoDigitAhead]⟩
  | c :: rest, h => by
    rw [List.forall_mem_cons] at h
    obtain ⟨hmore, hdetached⟩ := plain_alternatives rest h.2
    refine ⟨Plain.text_append (by decide) (Plain.append hmore hdetached (plain_clause c h.1)), ?_⟩
    exact detached_text_append (by simp [NoDigitAhead]) (by simp)
end

end PagedQuery.Condition
