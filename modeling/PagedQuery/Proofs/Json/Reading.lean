import Mathlib.Data.List.Forall2
import PagedQuery.Json.Decode

/-! Reading that may fail, in parts: what a successful reading is made of, and what reading a record
keeps, whether it is given as an object or as the list of its fields. -/

namespace PagedQuery

section Parts

variable {ε α β σ : Type} {P : σ → Prop}

theorem bind_eq_ok_iff {x : Except ε α} {f : α → Except ε β} {b : β} :
    (x >>= f) = .ok b ↔ ∃ a, x = .ok a ∧ f a = .ok b := by
  cases x with
  | error e => simp [Bind.bind, Except.bind]
  | ok a => simp [Bind.bind, Except.bind]

theorem map_eq_ok_iff {x : Except ε α} {f : α → β} {b : β} :
    x.map f = .ok b ↔ ∃ a, x = .ok a ∧ f a = b := by
  cases x with
  | error e => simp [Except.map]
  | ok a => simp [Except.map]

/-- What every step of a run keeps, a successful run keeps. -/
theorem foldlM_keeps {step : σ → α → Except ε σ} {items : List α}
    (hstep : ∀ a ∈ items, ∀ s s', step s a = .ok s' → P s → P s') {s s' : σ}
    (h : items.foldlM step s = .ok s') (hs : P s) : P s' := by
  induction items generalizing s with
  | nil =>
    obtain rfl := Except.ok.inj h
    exact hs
  | cons a rest ih =>
    rw [List.forall_mem_cons] at hstep
    rw [List.foldlM_cons, bind_eq_ok_iff] at h
    obtain ⟨next, hfirst, hrest⟩ := h
    exact ih hstep.2 hrest (hstep.1 s next hfirst hs)

end Parts

namespace Json

theorem decodeInt64_toInt (n : Int64) : decodeInt64 (.int n.toInt) = .ok n := by
  have hrange : Int64.minValue.toInt ≤ n.toInt ∧ n.toInt ≤ Int64.maxValue.toInt := by
    have hlow := n.le_toInt
    have hhigh := n.toInt_lt
    rw [Int64.toInt_minValue, Int64.toInt_maxValue]
    omega
  rw [decodeInt64, decodeInteger, if_pos hrange, Except.map, Int64.ofInt_toInt]

theorem Field.read_of_eq_ok_iff {σ α : Type} {name : String} {presence : Presence}
    {decode : Decoder α} {set : σ → α → σ} {j : Json} {f : σ → σ} :
    (Field.of name presence decode set).read j = .ok f ↔
      ∃ a, decode j = .ok a ∧ (fun s => set s a) = f := by
  rw [Field.of, map_eq_ok_iff]

namespace Record

variable {σ : Type} {P : σ → Prop}

/-- What holds of the blank record and is kept by every field that is read holds of the record. -/
theorem decode_keeps {r : Record σ} (hblank : P r.blank)
    (hfields : ∀ field ∈ r.fields, ∀ j set, field.read j = .ok set → ∀ s, P s → P (set s))
    {j : Json} {s : σ} (h : r.decode j = .ok s) : P s := by
  have hput : ∀ field ∈ r.fields, ∀ j s s', put s field j = .ok s' → P s → P s' := by
    intro field hfield j s s' h hs
    obtain ⟨set, hset, rfl⟩ := map_eq_ok_iff.mp h
    exact hfields field hfield j set hset s hs
  cases j with
  | object entries =>
    obtain ⟨last, hread, hend⟩ := bind_eq_ok_iff.mp (show r.ofObject entries = .ok s from h)
    have hlast : P last := by
      refine foldlM_keeps (fun e _ s s' hstep hs => ?_) hread hblank
      split at hstep
      · rename_i field hfound
        exact hput field (List.mem_of_find?_eq_some hfound) e.2 s s' hstep hs
      · rwa [← Except.ok.inj hstep]
    split at hend
    · nomatch hend
    · rwa [← Except.ok.inj hend]
  | list items =>
    obtain ⟨last, hread, hend⟩ := bind_eq_ok_iff.mp (show r.ofList items = .ok s from h)
    have hlast : P last := by
      refine foldlM_keeps (fun p hp s s' hstep hs => ?_) hread hblank
      exact hput p.1 (List.of_mem_zip hp).1 p.2 s s' hstep hs
    split at hend
    · nomatch hend
    · split at hend
      · nomatch hend
      · rwa [← Except.ok.inj hend]
  | null | bool | int | float | string => nomatch h

/-- The value under the key is read for a field, and changes the record so. -/
def Sets (r : Record σ) (e : String × Json) (set : σ → σ) : Prop :=
  ∃ field, r.fields.find? (·.name == e.1) = some field ∧ field.read e.2 = .ok set

/-- An object whose entries are all read gives what they make of the blank record in their order. -/
theorem ofObject_of_sets {r : Record σ} {entries : List (String × Json)} {sets : List (σ → σ)}
    (h : List.Forall₂ r.Sets entries sets)
    (hthere : ∀ field ∈ r.fields, field.presence = .required →
      (Json.find? field.name entries).isSome) :
    r.ofObject entries = .ok (sets.foldl (fun s set => set s) r.blank) := by
  refine bind_eq_ok_iff.mpr ⟨sets.foldl (fun s set => set s) r.blank, ?_, ?_⟩
  · clear hthere
    generalize r.blank = s
    induction h generalizing s with
    | nil => rfl
    | @cons e set _ _ hset _ ih =>
      obtain ⟨field, hfield, hread⟩ := hset
      have hput : put s field e.2 = .ok (set s) := map_eq_ok_iff.mpr ⟨set, hread, rfl⟩
      rw [List.foldlM_cons, hfield]
      exact bind_eq_ok_iff.mpr ⟨set s, hput, ih (set s)⟩
  · have hnone : r.fields.find? (fun f =>
        f.presence = .required && (Json.find? f.name entries).isNone) = none := by
      rw [List.find?_eq_none]
      intro field hfield hmissing
      rw [Bool.and_eq_true, decide_eq_true_iff, Option.isNone_iff_eq_none] at hmissing
      have hsome := hthere field hfield hmissing.1
      rw [hmissing.2] at hsome
      nomatch hsome
    rw [hnone]

end Record

end Json

end PagedQuery
