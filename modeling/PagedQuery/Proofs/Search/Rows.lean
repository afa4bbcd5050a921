import PagedQuery.Proofs.Search.Like
import PagedQuery.Proofs.Search.Meaning
import PagedQuery.Storage.Row

/-! What predicates say about a row: comparisons and matches with its cells, which are unknown where
a cell is null. -/

namespace PagedQuery

/-- The nanoseconds of an instant since the start of 1970. -/
def Timestamp.inNanos (t : Timestamp) : Int := t.seconds * 1000000000 + t.nanos

/-- How a value lies to another one: texts, identifiers and instants among themselves. -/
def Value.ordering? : Value → Value → Option Ordering
  | text a, text b => some (compare a b)
  | uuid a, uuid b => some (compare a.value.toNat b.value.toNat)
  | timestamp a, timestamp b => some (compare a.inNanos b.inNanos)
  | _, _ => none

/-- Whether values that lie so pass the comparison. -/
def Comparison.accepts : Comparison → Ordering → Bool
  | eq, o => o.isEq
  | notEq, o => o.isNe
  | gt, o => o.isGT
  | gte, o => o.isGE
  | lt, o => o.isLT
  | lte, o => o.isLE

namespace Cell

/-- A comparison of a cell with an argument. -/
def compared (op : Comparison) : Cell → Arg → Truth
  | some v, .value w => .ofOption ((v.ordering? w).map op.accepts)
  | _, _ => .unknown

/-- A match of a cell with a pattern; `alike` says which characters are the same in any case. -/
def likened (alike : Char → Char → Bool) : Cell → Arg → Truth
  | some (.text text), .value (.text pattern) => .ofOption (Like.matches? alike pattern text)
  | _, _ => .unknown

end Cell

/-- The truth value of a predicate on the row with these cells. A list is an alternative of its
values. -/
def Atom.truth (alike : Char → Char → Bool) (cells : String → Cell) : Atom Arg → Truth
  | compare column op value => (cells column).compared op value
  | like column pattern => (cells column).likened alike pattern
  | oneOf column first rest => .any ((first :: rest).map ((cells column).compared .eq))
  | isNull column => .ofOption (some (cells column).isNone)

theorem Comparison.accepts_gte {a b : Int} : gte.accepts (compare a b) ↔ b ≤ a :=
  Int.isGE_compare

theorem Comparison.accepts_lt {a b : Int} : lt.accepts (compare a b) ↔ a < b := by
  rw [accepts, Ordering.isLT_iff_eq_lt, Int.compare_eq_lt]

/-- Texts and identifiers: they are equal only to themselves. -/
def Value.Exact (w : Value) : Prop := w.kind = .text ∨ w.kind = .uuid

theorem Value.Exact.ordering?_iff {v w : Value} (h : w.Exact) :
    v.ordering? w = some .eq ↔ v = w := by
  have huuid : ∀ a b : Uuid, a.value.toNat = b.value.toNat ↔ a = b := by
    rintro ⟨a⟩ ⟨b⟩
    rw [Uuid.mk.injEq, BitVec.toNat_inj]
  cases w with
  | text b => cases v <;> simp [ordering?]
  | uuid b => cases v <;> simp [ordering?, huuid]
  | _ => simp [Exact, kind] at h

namespace Cell

variable {cell : Cell}

/-- A comparison holds when there is a value and it lies as it should. -/
theorem compared_eq_true {op : Comparison} {w : Value} :
    cell.compared op (.value w) = .true ↔
      ∃ v o, cell = some v ∧ v.ordering? w = some o ∧ op.accepts o := by
  cases cell with
  | none => simp [compared]
  | some v => simp [compared, Truth.ofOption_eq_true]

theorem compared_eq_eq_true {w : Value} (h : w.Exact) :
    cell.compared .eq (.value w) = .true ↔ cell = some w := by
  rw [compared_eq_true]
  constructor
  · rintro ⟨v, o, hcell, hlies, haccepts⟩
    obtain rfl : o = .eq := Ordering.isEq_iff_eq_eq.mp haccepts
    rw [hcell, h.ordering?_iff.mp hlies]
  · intro hcell
    exact ⟨w, .eq, hcell, h.ordering?_iff.mpr rfl, rfl⟩

theorem compared_timestamp_eq_true {op : Comparison} {t : Timestamp} :
    cell.compared op (.value (.timestamp t)) = .true ↔
      ∃ u, cell = some (.timestamp u) ∧ op.accepts (compare u.inNanos t.inNanos) := by
  rw [compared_eq_true]
  constructor
  · rintro ⟨v, o, hcell, hlies, haccepts⟩
    cases v with
    | timestamp u =>
      obtain rfl := Option.some.inj hlies
      exact ⟨u, hcell, haccepts⟩
    | _ => simp [Value.ordering?] at hlies
  · rintro ⟨u, hcell, haccepts⟩
    exact ⟨_, _, hcell, rfl, haccepts⟩

/-- A match with the pattern that looks for a text holds when there is a text that holds it. -/
theorem likened_pattern_eq_true {alike : Char → Char → Bool} {needle : String} :
    cell.likened alike (.value (.text (Condition.pattern needle))) = .true ↔
      ∃ text, cell = some (.text text) ∧ Like.Within alike needle text := by
  rw [← Condition.containing_eq_pattern]
  rcases cell with _ | v
  · simp [likened]
  · cases v <;> simp [likened, Truth.ofOption_eq_true, Like.matches?_containing_iff]

end Cell

end PagedQuery
