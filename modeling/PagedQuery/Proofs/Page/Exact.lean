import PagedQuery.Proofs.Page.Bounds

/-! Pages in 64 bits against pages in whole numbers: the count of pages is the least that holds all
rows, nothing overflows on the way to it, and the offset is capped only behind the last page. -/

namespace PagedQuery

/-- The 64-bit number of that value, where there is one. -/
def word? (n : Int) : Option Int64 :=
  if Int64.minValue.toInt ≤ n ∧ n ≤ Int64.maxValue.toInt then some (Int64.ofInt n) else none

theorem word?_toInt (w : Int64) : word? w.toInt = some w := by
  have hlow := w.le_toInt
  have hhigh := w.toInt_lt
  rw [word?, Int64.toInt_minValue, Int64.toInt_maxValue, if_pos (by omega), Int64.ofInt_toInt]

/-- The count of pages by the same steps as `pageCount`, each taken in whole numbers and given up
where its result is no 64-bit number. -/
def pageCount? (total size : Int64) : Option Int64 :=
  if size < 1 || total ≤ 0 then some 1
  else do
    let full ← word? (total.toInt.tdiv size.toInt)
    let rest ← word? (total.toInt.tmod size.toInt)
    let pages ← if rest ≠ 0 then word? (full.toInt + 1) else some full
    some (max pages 1)

/-- The quotient is short of the greatest number where the division leaves a rest. -/
theorem toInt_div_lt {total size : Int64} (hsize : 0 < size.toInt) (htotal : 0 < total.toInt)
    (hrest : total % size ≠ 0) : (total / size).toInt < 2 ^ 63 - 1 := by
  obtain ⟨s, hs⟩ := Int.eq_ofNat_of_zero_le (Int.le_of_lt hsize)
  obtain ⟨n, hn⟩ := Int.eq_ofNat_of_zero_le (Int.le_of_lt htotal)
  have hrest : n % s ≠ 0 := by
    intro hnone
    apply hrest
    rw [← Int64.toInt_inj, toInt_mod_eq hs hn, hnone]
    rfl
  have hless : n / s < n := div_lt_of_not_dvd (by omega) hrest
  have hlt := total.toInt_lt
  rw [toInt_div_eq hs hn]
  omega

/-- No step towards the count overflows, whatever the total and the size are. -/
theorem pageCount?_eq (total size : Int64) :
    pageCount? total size = some (pageCount total size) := by
  by_cases hnone : (size < 1 || total ≤ 0) = true
  · rw [pageCount?, pageCount, if_pos hnone, if_pos hnone]
  have hpositive : 0 < size.toInt ∧ 0 < total.toInt := by
    simp only [Bool.or_eq_true, decide_eq_true_eq, Int64.lt_iff_toInt_lt, Int64.le_iff_toInt_le,
      Int64.toInt_one, Int64.toInt_zero] at hnone
    omega
  obtain ⟨s, hs⟩ := Int.eq_ofNat_of_zero_le (Int.le_of_lt hpositive.1)
  obtain ⟨n, hn⟩ := Int.eq_ofNat_of_zero_le (Int.le_of_lt hpositive.2)
  have hfull : word? (total.toInt.tdiv size.toInt) = some (total / size) := by
    have hdiv : (total / size).toInt = total.toInt.tdiv size.toInt := by
      rw [toInt_div_eq hs hn, hn, hs, Int.ofNat_tdiv]
    rw [← hdiv, word?_toInt]
  have hrest : word? (total.toInt.tmod size.toInt) = some (total % size) := by
    rw [← Int64.toInt_mod, word?_toInt]
  rw [pageCount?, pageCount, if_neg hnone, if_neg hnone, hfull, hrest]
  simp only [Option.bind_eq_bind, Option.bind_some]
  by_cases hexact : total % size = 0
  · simp only [hexact, ne_eq, not_true_eq_false, if_false]
  · have hmore : word? ((total / size).toInt + 1) = some (total / size + 1) := by
      rw [← toInt_succ (toInt_div_lt hpositive.1 hpositive.2 hexact), word?_toInt]
    simp only [hexact, ne_eq, not_false_eq_true, if_true, hmore, Option.bind_some]

/-- So many pages are fewer than all of them when rows are left behind them. -/
theorem lt_pageCount_iff {total size : Int64} (hsize : 0 < size.toInt) (htotal : 0 < total.toInt)
    {k : Int} (hk : 0 ≤ k) :
    k < (pageCount total size).toInt ↔ k * size.toInt < total.toInt := by
  have hnext := le_pages_iff (n := total.toInt) hsize (show 1 ≤ k + 1 by omega)
  rw [Int.add_sub_cancel] at hnext
  rw [toInt_pageCount_eq_max hsize, ← hnext]
  omega

/-- Some rows, in pages of any size. The count of pages comes about without an overflow, and it is
the least number of pages that holds all rows. The offset of a request is that of its window, and
that of whole numbers up to the cap; it lies before the last row for the pages there are and for no
others, and there it is exact. A page is followed by another when rows are left behind it. -/
theorem paging_exact {α : Type} {total : Int64} {r : PageRequest} (rows : List α)
    (htotal : 1 ≤ total) (hsize : 1 ≤ r.size) :
    let n := total.toInt
    let s := r.size.toInt
    let p := max r.number.toInt 1
    let pages := (pageCount total r.size).toInt
    pageCount? total r.size = some (pageCount total r.size) ∧
    n ≤ pages * s ∧ (∀ k : Int, n ≤ k * s → pages ≤ k) ∧
    r.offset = r.window.offset ∧ r.offset = (PageWindow.ofPage r.number r.size).offset ∧
    r.offset.toInt = min ((p - 1) * s) Int64.maxValue.toInt ∧
    (r.offset < total ↔ p ≤ pages) ∧ (r.offset < total → r.offset.toInt = (p - 1) * s) ∧
    (1 ≤ r.number →
      ((Page.of rows total r.number r.size).hasNext ↔ (r.number.toInt - 1) * s + s < n)) := by
  intro n s p pages
  have hn : 0 < n := by
    rw [Int64.le_iff_toInt_le, Int64.toInt_one] at htotal
    omega
  have hs : 0 < s := by
    rw [Int64.le_iff_toInt_le, Int64.toInt_one] at hsize
    omega
  have hmore : ∀ {k : Int}, 0 ≤ k → (k < pages ↔ k * s < n) := lt_pageCount_iff hs hn
  have hoffset : r.offset.toInt = min ((p - 1) * s) Int64.maxValue.toInt := by
    rw [Int64.toInt_maxValue]
    exact toInt_pageOffset_eq_min r.number (Int.le_of_lt hs)
  have hgreatest : n ≤ Int64.maxValue.toInt := by
    have hlt := total.toInt_lt
    rw [Int64.toInt_maxValue]
    omega
  have hbefore : r.offset < total ↔ (p - 1) * s < n := by
    rw [Int64.lt_iff_toInt_lt, hoffset]
    omega
  refine ⟨pageCount?_eq total r.size, ?_, ?_, rfl, rfl, hoffset, ?_, ?_, ?_⟩
  · have hpages : 0 ≤ pages := Int.le_of_lt ((hmore (Int.le_refl 0)).mpr (by omega))
    exact Int.not_lt.mp fun hlt => Int.lt_irrefl _ ((hmore hpages).mpr hlt)
  · intro k hk
    have hpositive : 0 ≤ k := by
      by_contra hneg
      have hnone : k * s < 0 := Int.mul_neg_of_neg_of_pos (by omega) hs
      omega
    exact Int.not_lt.mp fun hlt => Int.not_lt.mpr hk ((hmore hpositive).mp hlt)
  · rw [hbefore, ← hmore (by omega)]
    omega
  · intro hlt
    rw [hbefore] at hlt
    omega
  · intro hnumber
    rw [Int64.le_iff_toInt_le, Int64.toInt_one] at hnumber
    have hrows : (r.number.toInt - 1) * s + s = r.number.toInt * s := by
      rw [Int.sub_mul, Int.one_mul]
      omega
    have hnext : (Page.of rows total r.number r.size).hasNext ↔ r.number.toInt < pages := by
      rw [Page.hasNext, decide_eq_true_iff, Int64.lt_iff_toInt_lt]
      rfl
    rw [hnext, hrows]
    exact hmore (by omega)

/-- The greatest total in pages of two: the last page, and one so far behind it that its offset is
capped. -/
theorem paging_exact_greatest :
    let last : PageRequest := { number := 4611686018427387904, size := 2 }
    let behind : PageRequest := { number := Int64.maxValue, size := 2 }
    (pageCount Int64.maxValue 2).toInt = 2 ^ 62 ∧ last.offset.toInt = 2 ^ 63 - 2 ∧
      ¬(Page.of ([] : List Nat) Int64.maxValue last.number last.size).hasNext ∧
      ¬behind.offset < Int64.maxValue ∧ behind.offset = Int64.maxValue := by
  intro last behind
  obtain ⟨-, hholds, hleast, -, -, -, hlast, hexact, hnext⟩ :=
    paging_exact (r := last) ([] : List Nat) (show 1 ≤ Int64.maxValue by decide) (by decide)
  obtain ⟨-, -, -, -, -, hcapped, hbehind, -, -⟩ :=
    paging_exact (r := behind) ([] : List Nat) (show 1 ≤ Int64.maxValue by decide) (by decide)
  have hsize : last.size.toInt = 2 := by decide
  have hnumber : last.number.toInt = 2 ^ 62 := by decide
  have hfar : behind.number.toInt = 2 ^ 63 - 1 := by decide
  have hgreatest : Int64.maxValue.toInt = 2 ^ 63 - 1 := Int64.toInt_maxValue
  simp only [hsize, hnumber, hgreatest] at hholds hleast hlast hexact hnext
  have hpages : (pageCount Int64.maxValue last.size).toInt = 2 ^ 62 := by
    have hupper := hleast (2 ^ 62) (by decide)
    omega
  refine ⟨hpages, ?_, ?_, ?_, ?_⟩
  · rw [hexact (hlast.mpr (by omega))]
    decide
  · rw [hnext (by decide)]
    decide
  · have hsame : behind.size = last.size := rfl
    rw [hbehind, hsame, hpages, hfar]
    decide
  · rw [← Int64.toInt_inj, hcapped]
    decide

end PagedQuery
