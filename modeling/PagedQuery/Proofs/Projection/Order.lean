import Mathlib.Data.List.Forall2
import Mathlib.Data.List.Nodup
import PagedQuery.Proofs.Projection.Lookup

/-! What a sequence of declarations makes of a projection: a column for every logical name, in the
order in which the names were first declared, and each as it was declared last. -/

namespace PagedQuery

namespace OrderedMap

variable {α : Type} {m : OrderedMap α}

theorem getElem?_keys (m : OrderedMap α) (i : Nat) :
    m.keys[i]? = m.entries[i]?.map Prod.fst := by
  simp [keys, toList]

theorem Indexed.mem_keys_iff (h : m.Indexed) {key : String} :
    key ∈ m.keys ↔ ∃ i, m.positions[key]? = some i := by
  rw [List.mem_iff_getElem?]
  exact exists_congr fun i => by rw [h key i, getElem?_keys]

theorem Indexed.nodup_keys (h : m.Indexed) : m.keys.Nodup := by
  rw [List.nodup_iff_getElem?_ne_getElem?]
  intro i j hij hj heq
  rw [getElem?_keys, getElem?_keys] at heq
  have hlt : j < m.entries.size := by simpa [keys, toList] using hj
  have hkey : m.entries[j]?.map Prod.fst = some m.entries[j].fst := by simp [hlt]
  have hfirst := (h _ i).mpr (heq.trans hkey)
  have hsecond := (h _ j).mpr hkey
  rw [hfirst, Option.some.injEq] at hsecond
  omega

/-- Putting under a name that is there keeps the names as they are; a new name comes last. -/
theorem Indexed.keys_insert (h : m.Indexed) (key : String) (value : α) :
    (m.insert key value).keys = if key ∈ m.keys then m.keys else m.keys ++ [key] := by
  unfold OrderedMap.insert
  cases hk : m.positions[key]? with
  | some i =>
    rw [if_pos (h.mem_keys_iff.mpr ⟨i, hk⟩)]
    obtain ⟨hlt, hkey⟩ :=
      List.getElem?_eq_some_iff.mp ((getElem?_keys m i).trans ((h key i).mp hk))
    have hset : (m.entries.setIfInBounds i (key, value)).toList.map Prod.fst = m.keys.set i key := by
      rw [Array.toList_setIfInBounds, List.map_set]
      rfl
    rw [keys, toList, hset, ← hkey, List.set_getElem_self]
  | none =>
    rw [if_neg fun hmem => by simp [h.mem_keys_iff, hk] at hmem]
    simp [keys, toList]

theorem Indexed.get?_eq_none_iff (h : m.Indexed) {key : String} :
    m.get? key = none ↔ key ∉ m.keys := by
  rw [h.mem_keys_iff, get?]
  cases hk : m.positions[key]? with
  | none => simp
  | some i =>
    have hlt : i < m.entries.size := h.lt_size hk
    simp [hlt]

/-- The values in order are those under the names in order. -/
theorem Indexed.forall₂_get? (h : m.Indexed) :
    List.Forall₂ (fun key v => m.get? key = some v) m.keys m.values := by
  rw [keys, values, List.forall₂_map_left_iff, List.forall₂_map_right_iff, List.forall₂_same]
  intro e he
  obtain ⟨i, hi, rfl⟩ := List.mem_iff_getElem.mp he
  have hlt : i < m.entries.size := hi
  have hposition : m.positions[m.entries[i].fst]? = some i := (h _ i).mpr (by simp [hlt])
  simp [get?, toList, hposition, hlt]

end OrderedMap

namespace ProjectionStep

/-- The logical name under which the step puts a column. -/
def logical? : ProjectionStep → Option String
  | select _ logical | selectAs _ logical => some logical
  | join .. => none

/-- The alias of the table that the step joins. -/
def joined? : ProjectionStep → Option String
  | join _ _ tableAlias _ _ => some tableAlias
  | _ => none

/-- The column that the step puts under a name while `current` is in force. -/
def put? (current : String) : ProjectionStep → Option (String × Column)
  | select column logical => some (logical, ⟨current ++ "." ++ column, none⟩)
  | selectAs column logical => some (logical, ⟨current ++ "." ++ column, some logical⟩)
  | join .. => none

theorem logical?_eq (current : String) (d : ProjectionStep) :
    d.logical? = (d.put? current).map (·.1) := by
  cases d <;> rfl

end ProjectionStep

namespace Projection

open ProjectionStep

/-- The alias in force behind declarations: the last that was joined, or that of the base table. -/
def inForce (base : String) (declared : List ProjectionStep) : String :=
  (declared.filterMap joined?).getLast?.getD base

/-- The column that the last declaration of a logical name puts, qualified by the alias in force
there. -/
def LastDeclared (base : String) (declared : List ProjectionStep) (logical : String)
    (c : Column) : Prop :=
  ∃ before d after, declared = before ++ d :: after ∧
    d.put? (inForce base before) = some (logical, c) ∧ ∀ e ∈ after, e.logical? ≠ some logical

variable {p : Projection} {base : String} {declared : List ProjectionStep}

theorem inForce_append (base : String) (declared : List ProjectionStep) (d : ProjectionStep) :
    inForce base (declared ++ [d]) = d.joined?.getD (inForce base declared) := by
  rw [inForce, List.filterMap_append]
  cases hd : d.joined? <;> simp [hd, inForce]

/-- The last declaration of a name is the one at the end, or the last one before it. -/
theorem lastDeclared_append {d : ProjectionStep} {logical : String} {c : Column} :
    LastDeclared base (declared ++ [d]) logical c ↔
      d.put? (inForce base declared) = some (logical, c) ∨
        d.logical? ≠ some logical ∧ LastDeclared base declared logical c := by
  constructor
  -- The last declaration of the name is `d` itself, or `d` is at the end of those behind it.
  · rintro ⟨before, e, after, hsplit, hput, hlast⟩
    rcases List.eq_nil_or_concat after with rfl | ⟨front, last, rfl⟩
    · obtain ⟨rfl, rfl⟩ := List.append_inj' hsplit rfl |>.imp_right List.singleton_inj.mp
      exact .inl hput
    · rw [List.concat_eq_append, ← List.cons_append, ← List.append_assoc] at hsplit
      obtain ⟨rfl, heq⟩ := List.append_inj' hsplit rfl
      obtain rfl := List.singleton_inj.mp heq
      refine .inr ⟨hlast d (by simp), before, e, front, rfl, hput, fun x hx => hlast x ?_⟩
      rw [List.concat_eq_append]
      exact List.mem_append_left _ hx
  · rintro (hput | ⟨hother, before, e, after, rfl, hput, hlast⟩)
    · exact ⟨declared, d, [], rfl, hput, by simp⟩
    · refine ⟨before, e, after ++ [d], by simp, hput, fun x hx => ?_⟩
      rcases List.mem_append.mp hx with hmem | hmem
      · exact hlast x hmem
      · rwa [List.mem_singleton.mp hmem]

/-- What one step does: it puts its column, and makes the table that it joins the current one. -/
theorem columns_step (p : Projection) (d : ProjectionStep) : (p.step d).columns =
    match d.put? p.current with
    | some (logical, c) => p.columns.insert logical c
    | none => p.columns := by
  cases d <;> rfl

theorem current_step (p : Projection) (d : ProjectionStep) :
    (p.step d).current = d.joined?.getD p.current := by
  cases d <;> rfl

/-- What each declaration keeps of a projection and those before it, a sequence of them keeps. -/
theorem steps_keep {P : Projection → List ProjectionStep → Prop}
    (hstep : ∀ p declared d, P p declared → P (p.step d) (declared ++ [d]))
    (declared : List ProjectionStep) (h : P p declared) (further : List ProjectionStep) :
    P (p.steps further) (declared ++ further) := by
  induction further generalizing p declared with
  | nil => rwa [List.append_nil]
  | cons d rest ih =>
    rw [← List.singleton_append, ← List.append_assoc]
    exact ih (declared ++ [d]) (hstep p declared d h)

/-- The projection is what the declarations make of its base table: the alias in force, the names in
the order in which they came first, and under each what was declared last. -/
structure Declares (p : Projection) (base : String) (declared : List ProjectionStep) : Prop where
  current : p.current = inForce base declared
  indexed : p.columns.Indexed
  names : p.names = (declared.filterMap logical?).eraseDups
  get? : ∀ logical c, p.columns.get? logical = some c ↔ LastDeclared base declared logical c

theorem declares_ofTable (schema table base : String) :
    (ofTable schema table base).Declares base [] where
  current := rfl
  indexed := OrderedMap.indexed_empty
  names := rfl
  get? logical c := by
    constructor
    · intro h
      simp [ofTable, OrderedMap.get?, OrderedMap.empty] at h
    · rintro ⟨before, d, after, hsplit, -⟩
      simp at hsplit

theorem eraseDups_concat (names : List String) (name : String) : (names ++ [name]).eraseDups =
    if name ∈ names then names.eraseDups else names.eraseDups ++ [name] := by
  rw [List.eraseDups_append]
  by_cases hmem : name ∈ names <;> simp [List.removeAll, List.eraseDups_cons, hmem]

theorem Declares.step (h : p.Declares base declared) (d : ProjectionStep) :
    (p.step d).Declares base (declared ++ [d]) where
  current := by rw [current_step, inForce_append, h.current]
  indexed := by
    rw [columns_step]
    split
    · exact h.indexed.insert _ _
    · exact h.indexed
  names := by
    have hnames : p.columns.keys = (declared.filterMap logical?).eraseDups := h.names
    rw [Projection.names, columns_step, List.filterMap_append]
    cases hput : d.put? p.current with
    | none => simp [logical?_eq p.current d, hput, hnames]
    | some put =>
      have hlogical : [d].filterMap logical? = [put.1] := by simp [logical?_eq p.current d, hput]
      rw [h.indexed.keys_insert, hlogical, eraseDups_concat, hnames]
      simp only [List.mem_eraseDups]
  get? logical c := by
    rw [columns_step, lastDeclared_append, ← h.current, logical?_eq p.current, ← h.get?]
    cases hput : d.put? p.current with
    | none => simp
    | some put =>
      obtain ⟨name, column⟩ := put
      simp only [h.indexed.get?_insert]
      by_cases hname : name = logical
      · simp [hname]
      · simp [hname]

theorem Declares.steps (h : p.Declares base declared) (further : List ProjectionStep) :
    (p.steps further).Declares base (declared ++ further) :=
  steps_keep (P := fun p => p.Declares base) (fun _ _ d h => h.step d) declared h further

theorem Declares.resolve?_eq_some_iff (h : p.Declares base declared) {logical column : String} :
    p.resolve? logical = some column ↔
      ∃ label, LastDeclared base declared logical ⟨column, label⟩ := by
  rw [Projection.resolve?, Option.map_eq_some_iff]
  constructor
  · rintro ⟨⟨qualified, label⟩, hget, rfl⟩
    exact ⟨label, (h.get? _ _).mp hget⟩
  · rintro ⟨label, hlast⟩
    exact ⟨_, (h.get? _ _).mpr hlast, rfl⟩

theorem resolve?_eq_none_iff (h : p.columns.Indexed) {logical : String} :
    p.resolve? logical = none ↔ logical ∉ p.names := by
  rw [Projection.resolve?, Option.map_eq_none_iff, h.get?_eq_none_iff, Projection.names]

theorem Declares.not_mem_names_iff (h : p.Declares base declared) {logical : String} :
    logical ∉ p.names ↔ ∀ d ∈ declared, d.logical? ≠ some logical := by
  rw [h.names, List.mem_eraseDups, List.mem_filterMap]
  simp

theorem sql_eq (c : Column) : c.sql = c.qualified ++ c.label.elim "" (" AS " ++ ·) := by
  obtain ⟨qualified, label⟩ := c
  cases label with
  | none => exact (String.append_empty).symm
  | some label => exact String.append_assoc

/-- Whatever is declared, and in whatever order. A name is resolved to the column of its last
declaration, qualified by the alias that was joined last before it, and one that was never declared
stands for itself. The names stand in the order in which they came first, each once, and so does
the select list, with the column of each as it was declared last and its label exactly where that
was selected with one. The positions that are kept are those of the names. -/
theorem first_places_last_columns (schema table base : String) (declared : List ProjectionStep) :
    let p := (ofTable schema table base).steps declared
    let last := LastDeclared base declared
    (∀ logical column, p.resolve? logical = some column ↔
      ∃ label, last logical ⟨column, label⟩) ∧
    (∀ logical, p.resolve? logical = none ↔ ∀ d ∈ declared, d.logical? ≠ some logical) ∧
    (∀ logical c, last logical c → p.resolve logical = c.qualified) ∧
    (∀ logical, (∀ d ∈ declared, d.logical? ≠ some logical) → p.resolve logical = logical) ∧
    p.names = (declared.filterMap logical?).eraseDups ∧ p.names.Nodup ∧
    (∃ columns, List.Forall₂ last p.names columns ∧
      p.selectList = String.intercalate ", "
        (columns.map fun c => c.qualified ++ c.label.elim "" (" AS " ++ ·))) ∧
    (∀ (logical : String) (i : Nat),
      p.columns.positions[logical]? = some i ↔ p.names[i]? = some logical) ∧
    ∀ (logical : String) (i : Nat),
      p.columns.positions[logical]? = some i → i < p.columns.entries.size := by
  intro p last
  have h : p.Declares base declared := (declares_ofTable schema table base).steps declared
  have hnone : ∀ logical, p.resolve? logical = none ↔ ∀ d ∈ declared, d.logical? ≠ some logical :=
    fun logical => (resolve?_eq_none_iff h.indexed).trans h.not_mem_names_iff
  have hsome : ∀ logical column, p.resolve? logical = some column ↔
      ∃ label, last logical ⟨column, label⟩ := fun _ _ => h.resolve?_eq_some_iff
  refine ⟨hsome, hnone, ?_, ?_, h.names, h.indexed.nodup_keys, ?_, ?_, ?_⟩
  · intro logical c hlast
    rw [resolve, (hsome logical c.qualified).mpr ⟨c.label, hlast⟩]
    rfl
  · intro logical hnever
    rw [resolve, (hnone logical).mpr hnever]
    rfl
  · refine ⟨p.columns.values, ?_, ?_⟩
    · exact h.indexed.forall₂_get?.imp fun logical c hget => (h.get? logical c).mp hget
    · simp only [← sql_eq]
      rfl
  · intro logical i
    rw [h.indexed logical i, names, OrderedMap.getElem?_keys]
  · intro logical i hposition
    exact h.indexed.lt_size hposition

end Projection

end PagedQuery
