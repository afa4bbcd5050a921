import Std.Data.HashMap

/-!
Maps that remember the order in which keys first arrived. Putting a value under a key that is
already there replaces the value in place.
-/

namespace PagedQuery

/-- A map from names to values: the entries in order of arrival, and where each name stands. -/
structure OrderedMap (α : Type) where
  entries : Array (String × α)
  positions : Std.HashMap String Nat

namespace OrderedMap

variable {α : Type}

def empty : OrderedMap α := ⟨#[], ∅⟩

instance : Inhabited (OrderedMap α) := ⟨empty⟩

def size (m : OrderedMap α) : Nat := m.entries.size

/-- The position of a name, or the next free one. -/
def slot (m : OrderedMap α) (key : String) : Nat := m.positions.getD key m.size

def get? (m : OrderedMap α) (key : String) : Option α :=
  m.positions[key]?.bind fun i => m.entries[i]?.map (·.2)

/-- Puts a value under a name: in place of the present one, or behind the last entry. -/
def insert (m : OrderedMap α) (key : String) (value : α) : OrderedMap α :=
  match m.positions[key]? with
  | some i => { m with entries := m.entries.setIfInBounds i (key, value) }
  | none => ⟨m.entries.push (key, value), m.positions.insert key m.size⟩

def toList (m : OrderedMap α) : List (String × α) := m.entries.toList

def keys (m : OrderedMap α) : List String := m.toList.map (·.1)

def values (m : OrderedMap α) : List α := m.toList.map (·.2)

/-- The positions are exactly those of the entries. -/
def Indexed (m : OrderedMap α) : Prop :=
  ∀ (key : String) (i : Nat), m.positions[key]? = some i ↔ m.entries[i]?.map Prod.fst = some key

theorem indexed_empty : (empty : OrderedMap α).Indexed := by
  intro key i
  simp [empty]

theorem Indexed.lt_size {m : OrderedMap α} (h : m.Indexed) {key : String} {i : Nat}
    (hi : m.positions[key]? = some i) : i < m.size := by
  obtain ⟨e, he, -⟩ := Option.map_eq_some_iff.1 ((h key i).1 hi)
  exact (Array.getElem?_eq_some_iff.1 he).1

/-- Putting keeps the positions right. -/
theorem Indexed.insert {m : OrderedMap α} (h : m.Indexed) (key : String) (value : α) :
    (m.insert key value).Indexed := by
  intro other j
  unfold OrderedMap.insert
  cases hk : m.positions[key]? with
  | some i =>
    have hlt : i < m.entries.size := h.lt_size hk
    have hkey : m.entries[i].fst = key := by simpa [hlt] using (h key i).1 hk
    simp only [h other j, Array.getElem?_setIfInBounds]
    by_cases hij : i = j
    · subst hij
      simp [hlt, hkey]
    · simp [hij]
  | none =>
    have hfree : ∀ i, m.entries[i]?.map Prod.fst ≠ some key := fun i hi => by
      rw [(h key i).2 hi] at hk
      cases hk
    simp only [Std.HashMap.getElem?_insert, Array.getElem?_push, size]
    by_cases ho : key = other
    · subst ho
      by_cases hj : j = m.entries.size
      · subst hj
        simp
      · have := hfree j
        simp only [BEq.rfl, if_true, Option.some.injEq]
        constructor
        · intro hs
          exact absurd hs.symm hj
        · intro hs
          rw [if_neg hj] at hs
          exact absurd hs this
    · have hne : (key == other) = false := by simpa using ho
      simp only [hne, Bool.false_eq_true, if_false, h other j]
      by_cases hj : j = m.entries.size
      · subst hj
        simp [ho]
      · simp [hj]

end OrderedMap

end PagedQuery
