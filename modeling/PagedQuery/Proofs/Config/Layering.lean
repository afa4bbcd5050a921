import Mathlib.Data.List.Nodup
import PagedQuery.Config.Setting

/-! Laying settings over settings: what is found at the end of a path afterwards, and what the
tables of one source hold by themselves. -/

namespace PagedQuery.Setting

/-- The setting at the end of a path of keys. -/
def at? : Setting → List String → Option Setting
  | s, [] => some s
  | s, key :: keys => (s.get? key).bind fun inner => inner.at? keys

theorem at?_cons (s : Setting) (key : String) (keys : List String) :
    s.at? (key :: keys) = (s.get? key).bind (·.at? keys) := rfl

theorem at?_singleton (s : Setting) (key : String) : s.at? [key] = s.get? key := by
  simp [at?]

theorem at?_pair (s : Setting) (key inner : String) :
    s.at? [key, inner] = (s.get? key).bind (·.get? inner) := by
  simp only [at?, Option.bind_fun_some]

theorem at?_getD_null (s : Option Setting) (key : String) (keys : List String) :
    (s.getD null).at? (key :: keys) = s.bind (·.at? (key :: keys)) := by
  cases s <;> rfl

theorem find?_putEntry (key other : String) (value : Setting) (es : List (String × Setting)) :
    ((putEntry key value es).find? fun e => e.1 == other).map (·.2) =
      if key = other then some value else (es.find? fun e => e.1 == other).map (·.2) := by
  induction es with
  | nil =>
    by_cases h : key = other <;> simp [putEntry, h]
  | cons e es ih =>
    by_cases hkey : e.1 = key
    · by_cases h : key = other <;> simp [putEntry, hkey, h]
    · have hput : putEntry key value (e :: es) = e :: putEntry key value es := by
        simp [putEntry, hkey]
      rw [hput, List.find?_cons, List.find?_cons]
      by_cases hother : e.1 = other
      · have hne : key ≠ other := fun h => hkey (hother.trans h.symm)
        simp [hother, hne]
      · have hfalse : (e.1 == other) = false := by simpa using hother
        rw [hfalse]
        exact ih

theorem get?_put (s : Setting) (key other : String) (value : Setting) :
    (s.put key value).get? other = if key = other then some value else s.get? other :=
  find?_putEntry key other value s.entries

/-- A table, or no setting at all. -/
def TableIfAny (s : Option Setting) : Prop := ∀ t, s = some t → ∃ es, t = table es

section Assign

variable {s value : Setting}

theorem assign_key (s : Setting) (key : String) (value : Setting) :
    s.assign [.key key] value = s.put key.toLower (overlay (s.get? key.toLower) value) := rfl

theorem assign_key_cons (s : Setting) (key next : String) (keys : List String) (value : Setting) :
    s.assign ((key :: next :: keys).map .key) value = s.put key.toLower
      (((s.get? key.toLower).getD null).assign ((next :: keys).map .key) value) := rfl

/-- At the end of the path the value is laid over what is there. -/
theorem at?_assign_self {keys : List String} (h : keys ≠ []) (s value : Setting) :
    (s.assign (keys.map .key) value).at? (keys.map String.toLower) =
      some (overlay (s.at? (keys.map String.toLower)) value) := by
  induction keys generalizing s with
  | nil => exact absurd rfl h
  | cons key rest ih =>
    cases rest with
    | nil =>
      show (s.assign [.key key] value).at? [key.toLower] =
        some (overlay (s.at? [key.toLower]) value)
      rw [at?_singleton, at?_singleton, assign_key, get?_put, if_pos rfl]
    | cons next rest =>
      have hinner := ih (List.cons_ne_nil _ _) ((s.get? key.toLower).getD null)
      have hlower : (key :: next :: rest).map String.toLower =
        key.toLower :: (next :: rest).map String.toLower := rfl
      rw [assign_key_cons, hlower, at?_cons, get?_put, if_pos rfl, Option.bind_some, hinner,
        at?_cons, List.map_cons, at?_getD_null]

/-- Elsewhere nothing changes, unless the one path leads through the end of the other. -/
theorem at?_assign_of_apart {keys other : List String} (s value : Setting)
    (hkeys : ¬keys.map String.toLower <+: other) (hother : ¬other <+: keys.map String.toLower) :
    (s.assign (keys.map .key) value).at? other = s.at? other := by
  induction keys generalizing s other with
  | nil => exact absurd List.nil_prefix hkeys
  | cons key rest ih =>
    cases other with
    | nil => exact absurd List.nil_prefix hother
    | cons first others =>
      rw [List.map_cons, List.cons_prefix_cons] at hkeys hother
      by_cases hfirst : key.toLower = first
      · obtain rfl := hfirst
        have hrest : ¬rest.map String.toLower <+: others := fun h => hkeys ⟨rfl, h⟩
        have hothers : ¬others <+: rest.map String.toLower := fun h => hother ⟨rfl, h⟩
        cases rest with
        | nil => exact absurd List.nil_prefix hrest
        | cons next rest =>
          cases others with
          | nil => exact absurd List.nil_prefix hothers
          | cons second others =>
            rw [assign_key_cons, at?_cons, get?_put, if_pos rfl, Option.bind_some,
              ih ((s.get? key.toLower).getD null) hrest hothers, at?_getD_null, at?_cons]
      · cases rest with
        | nil => rw [List.map_singleton, assign_key, at?_cons, at?_cons, get?_put, if_neg hfirst]
        | cons next rest => rw [assign_key_cons, at?_cons, at?_cons, get?_put, if_neg hfirst]

/-- One of the paths leads to or through the end of the other. -/
def Meets (path other : List String) : Prop := path <+: other ∨ other <+: path

instance (path other : List String) : Decidable (Meets path other) :=
  inferInstanceAs (Decidable (path <+: other ∨ other <+: path))

/-- What assigning does to the end of a path that it meets at its own end or not at all. -/
theorem at?_assign {keys other : List String} (hkeys : keys ≠ [])
    (hmeets : Meets (keys.map String.toLower) other → keys.map String.toLower = other)
    (s value : Setting) : (s.assign (keys.map .key) value).at? other =
      if keys.map String.toLower = other then some (overlay (s.at? other) value)
      else s.at? other := by
  split
  · rename_i hsame
    rw [← hsame]
    exact at?_assign_self hkeys s value
  · rename_i hother
    exact at?_assign_of_apart s value (fun h => hother (hmeets (.inl h)))
      (fun h => hother (hmeets (.inr h)))

theorem exists_table_assign (s : Setting) (key : String) (keys : List String) (value : Setting) :
    ∃ es, s.assign ((key :: keys).map .key) value = table es := by
  cases keys with
  | nil => exact ⟨_, assign_key s key value⟩
  | cons next keys => exact ⟨_, assign_key_cons s key next keys value⟩

/-- A table stays one, unless the path ends there. -/
theorem TableIfAny.assign {name : String} (h : TableIfAny (s.get? name)) {keys : List String}
    (hkeys : keys ≠ []) (hname : keys.map String.toLower ≠ [name]) (value : Setting) :
    TableIfAny ((s.assign (keys.map .key) value).get? name) := by
  cases keys with
  | nil => exact absurd rfl hkeys
  | cons key rest =>
    cases rest with
    | nil =>
      have hne : key.toLower ≠ name := fun heq => hname (congrArg ([·]) heq)
      rwa [List.map_singleton, assign_key, get?_put, if_neg hne]
    | cons next rest =>
      rw [assign_key_cons, get?_put]
      split
      · rintro t ht
        obtain rfl := Option.some.inj ht
        exact exists_table_assign _ next rest value
      · exact h

end Assign

section Files

variable {es : List (String × Setting)}

/-- The value under a key in any case. -/
def lookup? (es : List (String × Setting)) (key : String) : Option Setting :=
  (es.find? fun e => e.1.toLower == key).map (·.2)

/-- The keys of the tables are names rather than paths, and differ in more than their case. -/
structure PlainKeys (es : List (String × Setting)) : Prop where
  names : ∀ e ∈ es, KeyStep.path e.1 = [.key e.1]
  distinct : (es.map fun e => e.1.toLower).Nodup
  inner : ∀ e ∈ es, (e.2.entries.map fun f => f.1.toLower).Nodup

theorem layer_eq_overlayEntries (hnames : ∀ e ∈ es, KeyStep.path e.1 = [.key e.1])
    (root : Setting) : layer root es = overlayEntries root es := by
  induction es generalizing root with
  | nil => rfl
  | cons e rest ih =>
    obtain ⟨hname, hrest⟩ := List.forall_mem_cons.mp hnames
    rw [layer, List.foldl_cons, hname, assign_key, overlayEntries]
    exact ih hrest _

/-- Laying the entries of a table one by one lays each of them once. -/
theorem get?_overlayEntries (hdistinct : (es.map fun e => e.1.toLower).Nodup) (target : Setting)
    (key : String) : (overlayEntries target es).get? key =
      ((lookup? es key).map (overlay (target.get? key))).or (target.get? key) := by
  induction es generalizing target with
  | nil => rfl
  | cons e rest ih =>
    obtain ⟨hnew, hrest⟩ := List.nodup_cons.mp hdistinct
    rw [overlayEntries, ih hrest, get?_put]
    -- An entry under the same key cannot follow.
    by_cases hkey : e.1.toLower = key
    · have hnone : lookup? rest key = none := by
        rw [lookup?, Option.map_eq_none_iff, List.find?_eq_none]
        intro other hmem hsame
        exact hnew (List.mem_map.mpr ⟨other, hmem, (eq_of_beq hsame).trans hkey.symm⟩)
      rw [hnone, if_pos hkey, hkey]
      simp [lookup?, hkey]
    · simp [lookup?, hkey]

theorem PlainKeys.get?_layer (h : PlainKeys es) (name : String) :
    (layer empty es).get? name = (lookup? es name).map (overlay none) := by
  rw [layer_eq_overlayEntries h.names, get?_overlayEntries h.distinct]
  exact Option.or_none

/-- A file by itself holds its entries, under their keys without case. -/
theorem PlainKeys.at?_layer (h : PlainKeys es) (name key : String) :
    (layer empty es).at? [name, key] =
      (lookup? es name).bind fun inner => (lookup? inner.entries key).map (overlay none) := by
  rw [at?_pair, h.get?_layer, Option.bind_map]
  cases hfound : lookup? es name with
  | none => rfl
  | some inner =>
    obtain ⟨e, he, rfl⟩ := Option.map_eq_some_iff.mp hfound
    have hinner := h.inner e (List.mem_of_find?_eq_some he)
    cases hs : e.2 with
    | table entries =>
      rw [hs] at hinner
      have hlaid : (overlayEntries empty entries).get? key = _ :=
        get?_overlayEntries hinner empty key
      exact hlaid.trans Option.or_none
    | null | bool | int | float | text | list => rfl

end Files

end PagedQuery.Setting
