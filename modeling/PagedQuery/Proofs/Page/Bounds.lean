import Mathlib.Algebra.Group.Int.Defs
import Mathlib.Algebra.Group.Nat.Defs
import Mathlib.Data.List.Basic
import PagedQuery.Page

/-! The arithmetic of pages over whole numbers without a bound: the size, the number of pages and
the rows before a page. -/

namespace PagedQuery

/-- The number of pages of `size` rows that hold `total` rows. -/
def pagesOf (total size : Nat) : Nat := (total - 1) / size + 1

section PagesOf

variable {total size : Nat} (hsize : 0 < size)
include hsize

theorem pagesOf_of_dvd (htotal : 0 < total) (h : total % size = 0) :
    pagesOf total size = total / size := by
  obtain ⟨q, rfl⟩ := Nat.dvd_of_mod_eq_zero h
  obtain ⟨p, rfl⟩ := Nat.exists_eq_succ_of_ne_zero (Nat.ne_of_gt (Nat.pos_of_mul_pos_left htotal))
  have hbefore : size * p.succ - 1 = size - 1 + size * p := by
    rw [Nat.mul_succ]
    omega
  rw [pagesOf, hbefore, Nat.add_mul_div_left _ _ hsize, Nat.div_eq_of_lt (by omega),
    Nat.mul_div_cancel_left _ hsize, Nat.zero_add]

theorem pagesOf_of_not_dvd (h : total % size ≠ 0) : pagesOf total size = total / size + 1 := by
  have hdiv := Nat.div_add_mod total size
  have hmod := Nat.mod_lt total hsize
  have hbefore : total - 1 = total % size - 1 + size * (total / size) := by omega
  rw [pagesOf, hbefore, Nat.add_mul_div_left _ _ hsize, Nat.div_eq_of_lt (by omega), Nat.zero_add]

theorem div_lt_of_not_dvd (h : total % size ≠ 0) : total / size < total := by
  have hpositive : 0 < total := by
    apply Nat.pos_of_ne_zero
    rintro rfl
    exact h (Nat.zero_mod size)
  have hmany : 1 < size := by
    rcases Nat.lt_or_eq_of_le hsize with hlt | rfl
    · exact hlt
    · exact absurd (Nat.mod_one total) h
  exact Nat.div_lt_self hpositive hmany

/-- The pages hold all rows. -/
theorem le_pagesOf_mul : total ≤ pagesOf total size * size := by
  have hlt := Nat.lt_div_mul_add (a := total - 1) hsize
  rw [pagesOf, Nat.add_mul, Nat.one_mul]
  omega

/-- Rows are left behind every page but the last. -/
theorem mul_lt_of_lt_pagesOf {i : Nat} (hi : i + 1 < pagesOf total size) :
    (i + 1) * size < total := by
  have hle : i + 1 ≤ (total - 1) / size := by
    rw [pagesOf] at hi
    omega
  have hmul := (Nat.le_div_iff_mul_le hsize).mp hle
  have hpos : 0 < (i + 1) * size := Nat.mul_pos (Nat.succ_pos i) hsize
  omega

end PagesOf

section Ceiling

variable {n s p : Int} (hs : 0 < s)
include hs

theorem le_ceiling_iff : p ≤ (n + s - 1) / s ↔ (p - 1) * s < n := by
  rw [Int.le_ediv_iff_mul_le hs, Int.sub_mul, Int.one_mul]
  omega

theorem ceiling_nonpos (hn : n ≤ 0) : (n + s - 1) / s ≤ 0 := by
  have hlt : (n + s - 1) / s < 1 := Int.ediv_lt_of_lt_mul hs (by omega)
  omega

/-- A page from the first on is one of the pages of some rows when rows are left for it. -/
theorem le_pages_iff (hp : 1 ≤ p) : 0 < n ∧ p ≤ max 1 ((n + s - 1) / s) ↔ (p - 1) * s < n := by
  have hbefore : 0 ≤ (p - 1) * s := Int.mul_nonneg (by omega) (by omega)
  constructor
  · rintro ⟨hn, hle⟩
    have hfirst : 1 ≤ (n + s - 1) / s := (le_ceiling_iff hs).mpr (by simpa using hn)
    rw [← le_ceiling_iff hs]
    omega
  · intro hlt
    have hle := (le_ceiling_iff hs).mpr hlt
    omega

end Ceiling

/-- The greater of two 64-bit numbers is the greater one of their values. -/
theorem toInt_max (a b : Int64) : (max a b).toInt = max a.toInt b.toInt := by
  rw [show max a b = if a ≤ b then b else a from rfl]
  split
  · rename_i hle
    rw [Int64.le_iff_toInt_le] at hle
    omega
  · rename_i hlt
    rw [Int64.le_iff_toInt_le] at hlt
    omega

theorem toInt_succ {a : Int64} (h : a.toInt < 2 ^ 63 - 1) : (a + 1).toInt = a.toInt + 1 := by
  have hlow := a.le_toInt
  rw [Int64.toInt_add, Int64.toInt_one, Int.bmod_eq_of_le] <;> omega

/-- The rows before a page, over whole numbers, as far as the offset can hold them. Every page before
the first counts as the first. -/
theorem toInt_pageOffset_eq_min (page : Int64) {size : Int64} (hsize : 0 ≤ size.toInt) :
    (pageOffset page size).toInt = min ((max page.toInt 1 - 1) * size.toInt) (2 ^ 63 - 1) := by
  have hbefore : (max page 1 - 1).toInt = max page.toInt 1 - 1 := by
    have hmax : (max page 1).toInt = max page.toInt 1 := by rw [toInt_max, Int64.toInt_one]
    have hlt := page.toInt_lt
    rw [Int64.toInt_sub, hmax, Int64.toInt_one, Int.bmod_eq_of_le] <;> omega
  have hrows : 0 ≤ (max page.toInt 1 - 1) * size.toInt := Int.mul_nonneg (by omega) hsize
  rw [pageOffset, clampInt64, hbefore, Int64.toInt_minValue, Int64.toInt_maxValue,
    Int64.toInt_ofInt_of_le (by omega) (by omega)]
  omega

section Words

variable {total size : Int64} {n s : Nat} (hsize : size.toInt = s)
include hsize

theorem toInt_div_eq (htotal : total.toInt = n) : (total / size).toInt = (n / s : Nat) := by
  have hne : size ≠ -1 := by
    rintro rfl
    simp at hsize
  rw [Int64.toInt_div_of_ne_right _ _ hne, htotal, hsize, Int.ofNat_tdiv]

theorem toInt_mod_eq (htotal : total.toInt = n) : (total % size).toInt = (n % s : Nat) := by
  rw [Int64.toInt_mod, htotal, hsize, Int.ofNat_tmod]

theorem toInt_pageCount (hs : 0 < s) (htotal : total.toInt = n) :
    (pageCount total size).toInt = pagesOf n s := by
  have hpositive : ¬size < 1 := by
    rw [Int64.lt_iff_toInt_lt, hsize, Int64.toInt_one]
    omega
  rcases Nat.eq_zero_or_pos n with rfl | hn
  · have hempty : total ≤ 0 := by
      rw [Int64.le_iff_toInt_le, htotal]
      exact Int.le_refl _
    simp [pageCount, hempty, pagesOf]
  have hfull : ¬total ≤ 0 := by
    rw [Int64.le_iff_toInt_le, htotal, Int64.toInt_zero]
    omega
  have hdiv := toInt_div_eq hsize htotal
  have hmod := toInt_mod_eq hsize htotal
  have hcount : (if total % size ≠ 0 then total / size + 1 else total / size).toInt =
      pagesOf n s := by
    simp only [ne_eq, ← Int64.toInt_inj, hmod, Int64.toInt_zero]
    split
    · rename_i hrest
      have hrest : n % s ≠ 0 := by omega
      have hlt := total.toInt_lt
      have hless : n / s < n := div_lt_of_not_dvd hs hrest
      rw [toInt_succ (by omega), hdiv, pagesOf_of_not_dvd hs hrest]
      rfl
    · rename_i hnone
      rw [hdiv, pagesOf_of_dvd hs hn (by omega)]
  have hpages : 1 ≤ pagesOf n s := Nat.succ_pos _
  simp only [pageCount, hpositive, hfull, decide_false, Bool.or_false, Bool.false_eq_true,
    if_false]
  rw [toInt_max, hcount, Int64.toInt_one]
  omega

/-- The rows before the page after `i` others, unless they are too many for the offset. -/
theorem toInt_pageOffset {page : Int64} {i : Nat} (hpage : page.toInt = i + 1) :
    (pageOffset page size).toInt = min (i * s : Int) (2 ^ 63 - 1) := by
  have hbefore : max page.toInt 1 - 1 = i := by omega
  rw [toInt_pageOffset_eq_min page (by omega), hbefore, hsize]

end Words

/-- The number of pages is the quotient rounded up, and at least one. -/
theorem toInt_pageCount_eq_max {total size : Int64} (hsize : 0 < size.toInt) :
    (pageCount total size).toInt = max 1 ((total.toInt + size.toInt - 1) / size.toInt) := by
  obtain ⟨s, hs⟩ := Int.eq_ofNat_of_zero_le (Int.le_of_lt hsize)
  by_cases htotal : total.toInt ≤ 0
  · have hnone : total ≤ 0 := by
      rw [Int64.le_iff_toInt_le]
      exact htotal
    have hceiling := ceiling_nonpos hsize htotal
    have hcount : pageCount total size = 1 := by simp [pageCount, hnone]
    rw [hcount, Int64.toInt_one]
    omega
  · obtain ⟨n, hn⟩ := Int.eq_ofNat_of_zero_le (show 0 ≤ total.toInt by omega)
    have hbefore : (n : Int) + s - 1 = ((n - 1 : Nat) : Int) + 1 * s := by omega
    have hfull : (0 : Int) ≤ ((n - 1) / s : Nat) := Int.natCast_nonneg _
    rw [toInt_pageCount hs (by omega) hn, hn, hs, hbefore,
      Int.add_mul_ediv_right _ _ (by omega), ← Int.natCast_ediv, pagesOf]
    omega

/-- Checked bounds: both sizes are positive. -/
theorem PageBounds.check_eq_ok_iff {b : PageBounds} : b.check = .ok () ↔
    0 < b.defaultSize ∧ b.defaultSize ≤ b.maxSize := by
  unfold check
  rw [UInt32.pos_iff_ne_zero]
  by_cases hdefault : b.defaultSize = 0
  · simp [hdefault]
  -- A greatest size of zero is exceeded by every default that is left.
  by_cases hmax : b.maxSize = 0
  · simp [hmax, hdefault]
  by_cases hexceeds : b.maxSize < b.defaultSize
  · simp [hdefault, hmax, hexceeds, UInt32.not_le.mpr hexceeds]
  · simp [hdefault, hmax, hexceeds, UInt32.not_lt.mp hexceeds]

theorem PageBounds.pos_of_check {b : PageBounds} (hb : b.check = .ok ()) :
    0 < b.defaultSize.toNat ∧ 0 < b.maxSize.toNat := by
  obtain ⟨hdefault, hle⟩ := check_eq_ok_iff.mp hb
  rw [UInt32.lt_iff_toNat_lt] at hdefault
  rw [UInt32.le_iff_toNat_le] at hle
  exact ⟨hdefault, Nat.lt_of_lt_of_le hdefault hle⟩

namespace PageRequest

@[simp] theorem bounded_size (r : PageRequest) (b : PageBounds) :
    (r.bounded b).size = boundedSize b r.size := rfl

@[simp] theorem bounded_search (r : PageRequest) (b : PageBounds) :
    (r.bounded b).search = cleanSearch r.search := rfl

@[simp] theorem bounded_order (r : PageRequest) (b : PageBounds) :
    (r.bounded b).order = r.order := rfl

/-- A page before the first counts as the first. -/
theorem toInt_bounded_number (r : PageRequest) (b : PageBounds) :
    (r.bounded b).number.toInt = max r.number.toInt 1 := by
  unfold bounded
  dsimp only
  split
  · rename_i hlt
    rw [Int64.lt_iff_toInt_lt, Int64.toInt_one] at hlt
    rw [Int64.toInt_one]
    omega
  · rename_i hle
    rw [Int64.lt_iff_toInt_lt, Int64.toInt_one] at hle
    omega

theorem bounded_number {r : PageRequest} (h : 1 ≤ r.number.toInt) (b : PageBounds) :
    (r.bounded b).number = r.number := by
  rw [← Int64.toInt_inj, toInt_bounded_number]
  omega

theorem one_le_bounded_number (r : PageRequest) (b : PageBounds) :
    1 ≤ (r.bounded b).number.toInt := by
  rw [toInt_bounded_number]
  omega

theorem toInt_sizeOf32 (n : UInt32) : (sizeOf32 n).toInt = n.toNat := by
  have hlt := n.toNat_lt
  exact Int64.toInt_ofNat_of_lt (by omega)

/-- The size in bounds, over whole numbers. -/
theorem toInt_boundedSize (b : PageBounds) (size : Int64) : (boundedSize b size).toInt =
    min (if size.toInt < 1 then (b.defaultSize.toNat : Int) else size.toInt) b.maxSize.toNat := by
  have hchosen : (if size < 1 then sizeOf32 b.defaultSize else size).toInt =
      if size.toInt < 1 then (b.defaultSize.toNat : Int) else size.toInt := by
    rw [apply_ite Int64.toInt, toInt_sizeOf32]
    simp only [Int64.lt_iff_toInt_lt, Int64.toInt_one]
  rw [← hchosen, boundedSize]
  generalize (if size < 1 then sizeOf32 b.defaultSize else size) = chosen
  split
  · rename_i hexceeds
    rw [Int64.lt_iff_toInt_lt, toInt_sizeOf32] at hexceeds
    rw [toInt_sizeOf32]
    omega
  · rename_i hwithin
    rw [Int64.lt_iff_toInt_lt, toInt_sizeOf32] at hwithin
    omega

/-- Under checked bounds the size is positive, whatever was asked for. -/
theorem boundedSize_pos {b : PageBounds} (hb : b.check = .ok ()) (size : Int64) :
    0 < (boundedSize b size).toInt := by
  obtain ⟨hdefault, hmax⟩ := PageBounds.pos_of_check hb
  rw [toInt_boundedSize]
  omega

theorem boundedSize_le (b : PageBounds) (size : Int64) :
    (boundedSize b size).toInt ≤ b.maxSize.toNat := by
  rw [toInt_boundedSize]
  omega

/-- The offset of a request in bounds, over whole numbers. -/
theorem toInt_offset {r : PageRequest} (hnumber : 1 ≤ r.number.toInt) (hsize : 0 ≤ r.size.toInt) :
    r.offset.toInt = min ((r.number.toInt - 1) * r.size.toInt) (2 ^ 63 - 1) := by
  have hfirst : max r.number.toInt 1 = r.number.toInt := by omega
  rw [offset, toInt_pageOffset_eq_min r.number hsize, hfirst]

/-- The offset is exact when it is less than some total. -/
theorem toInt_offset_of_lt {r : PageRequest} {total : Int64} (hnumber : 1 ≤ r.number.toInt)
    (hsize : 0 ≤ r.size.toInt) (hlt : (r.number.toInt - 1) * r.size.toInt < total.toInt) :
    r.offset.toInt = (r.number.toInt - 1) * r.size.toInt := by
  have hmax := total.toInt_lt
  rw [toInt_offset hnumber hsize]
  omega

end PageRequest

end PagedQuery
