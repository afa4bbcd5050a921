import PagedQuery.Proofs.Page.Bounds
import PagedQuery.Proofs.Text.Blank

/-! Requests in bounds: what checked bounds do for every request, and that a request in bounds is its
own normal form, its search being absent or a text without blanks at its ends. -/

namespace PagedQuery

/-! ### Bounds that serve every request -/

/-- The request gets a page of at least one row and at most the greatest size: of the default size
when it names none, and of its own when that is allowed. -/
structure PageBounds.Serves (b : PageBounds) (r : PageRequest) : Prop where
  one_le : 1 ≤ (r.bounded b).size.toInt
  le_max : (r.bounded b).size.toInt ≤ b.maxSize.toNat
  default : r.size < 1 → (r.bounded b).size.toInt = b.defaultSize.toNat
  own : 1 ≤ r.size → r.size.toInt ≤ b.maxSize.toNat → (r.bounded b).size = r.size

theorem PageBounds.serves_of_check {b : PageBounds} (hb : b.check = .ok ()) (r : PageRequest) :
    b.Serves r where
  one_le := PageRequest.boundedSize_pos hb r.size
  le_max := PageRequest.boundedSize_le b r.size
  default := by
    intro hnone
    have hle := (check_eq_ok_iff.mp hb).2
    rw [UInt32.le_iff_toNat_le] at hle
    rw [Int64.lt_iff_toInt_lt, Int64.toInt_one] at hnone
    rw [PageRequest.bounded_size, PageRequest.toInt_boundedSize]
    omega
  own := by
    intro hsome hallowed
    rw [Int64.le_iff_toInt_le, Int64.toInt_one] at hsome
    rw [PageRequest.bounded_size, ← Int64.toInt_inj, PageRequest.toInt_boundedSize]
    omega

/-- A request that names no size shows all that is checked. -/
theorem PageBounds.check_of_serves {b : PageBounds} (h : b.Serves {}) : b.check = .ok () := by
  have hdefault := h.default (by decide)
  have hpositive := h.one_le
  have hallowed := h.le_max
  rw [check_eq_ok_iff, UInt32.lt_iff_toNat_lt, UInt32.le_iff_toNat_le, UInt32.toNat_zero]
  omega

/-- The check accepts the bounds that serve every request, and no others. The number and the order of
a request are settled under any bounds. -/
theorem PageBounds.check_eq_ok_iff_serves (b : PageBounds) :
    (b.check = .ok () ↔ ∀ r : PageRequest, b.Serves r) ∧
      ∀ r : PageRequest, (r.bounded b).number = max r.number 1 ∧ (r.bounded b).order = r.order := by
  refine ⟨⟨serves_of_check, fun h => check_of_serves (h {})⟩, fun r => ⟨?number, rfl⟩⟩
  case number =>
    rw [← Int64.toInt_inj, PageRequest.toInt_bounded_number, toInt_max, Int64.toInt_one]

namespace PageRequest

/-! ### The search in its normal form -/

/-- The text that the request looks for: its search, unless that is blank. -/
def sought (r : PageRequest) : Option String := r.search.filter fun text => ¬Text.Blank text

theorem sought_eq_some_iff {r : PageRequest} {text : String} :
    r.sought = some text ↔ r.search = some text ∧ ¬Text.Blank text := by
  simp [sought, Option.filter_eq_some_iff]

theorem sought_eq_bind (r : PageRequest) : r.sought = r.search.bind Text.nonBlank? := by
  ext text
  rw [sought_eq_some_iff, Option.bind_eq_some_iff]
  simp [Text.nonBlank?_eq_some_iff, and_comm]

theorem cleanSearch_eq (r : PageRequest) : cleanSearch r.search = r.sought.map Text.trim := by
  rw [sought_eq_bind]
  cases r.search with
  | none => rfl
  | some text =>
    simp only [cleanSearch, Option.bind_some, Text.nonBlank?]
    split <;> rfl

/-- A text that is sought is not blank, and trimming leaves it so. -/
theorem sought_bounded (r : PageRequest) (b : PageBounds) :
    (r.bounded b).sought = r.sought.map Text.trim := by
  ext text
  rw [sought_eq_some_iff, bounded_search, cleanSearch_eq, Option.map_eq_some_iff,
    and_iff_left_iff_imp]
  rintro ⟨raw, hraw, rfl⟩
  rw [Text.blank_trim_iff]
  exact (sought_eq_some_iff.mp hraw).2

theorem hasText_bounded (r : PageRequest) (b : PageBounds) :
    Text.HasText (r.bounded b).search ↔ Text.HasText r.search := by
  rw [← Text.isSome_bind_nonBlank?, ← Text.isSome_bind_nonBlank?, ← sought_eq_bind,
    ← sought_eq_bind, sought_bounded, Option.isSome_map]

theorem trimmed_of_bounded {r : PageRequest} {b : PageBounds} {text : String}
    (h : (r.bounded b).search = some text) : text ≠ "" ∧ Text.Trimmed text.toList := by
  rw [bounded_search, cleanSearch_eq, Option.map_eq_some_iff] at h
  obtain ⟨raw, hraw, rfl⟩ := h
  have hblank := (sought_eq_some_iff.mp hraw).2
  constructor
  · intro hempty
    rw [← Text.blank_trim_iff, hempty] at hblank
    exact hblank (List.forall_mem_nil _)
  · rw [Text.toList_trim]
    exact Text.trimmed_trimChars _

theorem boundedSize_boundedSize (b : PageBounds) (size : Int64) :
    boundedSize b (boundedSize b size) = boundedSize b size := by
  rw [← Int64.toInt_inj, toInt_boundedSize, toInt_boundedSize]
  omega

/-- A request in bounds is its own normal form, under bounds of any kind. -/
theorem bounded_bounded (r : PageRequest) (b : PageBounds) :
    (r.bounded b).bounded b = r.bounded b := by
  have hnumber : ((r.bounded b).bounded b).number = (r.bounded b).number :=
    bounded_number (one_le_bounded_number r b) b
  have hsearch : cleanSearch (r.bounded b).search = (r.bounded b).search := by
    rw [cleanSearch_eq, sought_bounded, bounded_search, cleanSearch_eq, Option.map_map]
    exact congrArg (r.sought.map ·) (funext Text.trim_trim)
  calc (r.bounded b).bounded b
      = ⟨((r.bounded b).bounded b).number, boundedSize b (boundedSize b r.size),
          cleanSearch (r.bounded b).search, r.order⟩ := rfl
    _ = ⟨(r.bounded b).number, boundedSize b r.size, (r.bounded b).search, r.order⟩ := by
      rw [hnumber, boundedSize_boundedSize, hsearch]
    _ = r.bounded b := rfl

end PageRequest

end PagedQuery
