/-! The window of rows that a page shows: how many rows, and how many are skipped before it. -/

namespace PagedQuery

/-- The 64-bit number nearest to `n`. -/
def clampInt64 (n : Int) : Int64 :=
  Int64.ofInt (max Int64.minValue.toInt (min n Int64.maxValue.toInt))

/-- The rows that come before a page, pages being counted from one: the product is exact, and past
the greatest 64-bit number it stays there. -/
def pageOffset (page pageSize : Int64) : Int64 :=
  clampInt64 ((max page 1 - 1).toInt * pageSize.toInt)

structure PageWindow where
  limit : Int64
  offset : Int64
deriving DecidableEq, Repr, Inhabited

namespace PageWindow

/-- The window of a page, pages being counted from one. -/
def ofPage (page pageSize : Int64) : PageWindow := ⟨pageSize, pageOffset page pageSize⟩

def sql (w : PageWindow) : String := s!" LIMIT {w.limit} OFFSET {w.offset}"

end PageWindow

end PagedQuery
