import PagedQuery.Config.Environment
import PagedQuery.Proofs.Config.Layering
import PagedQuery.Proofs.Text.Reading

/-! Environment variables over other settings: the path that the name of each denotes, and that each
setting is changed by the variable that denotes its path and by no other. -/

namespace PagedQuery

namespace Text

theorem mem_of_mem_split {sep c : Char} {cs part : List Char} (hpart : part ∈ split sep cs)
    (hc : c ∈ part) : c ∈ cs := by
  induction cs generalizing part with
  | nil => simp_all [split]
  | cons d cs ih =>
    rw [split] at hpart
    split at hpart
    · rcases List.mem_cons.mp hpart with rfl | hmem
      · cases hc
      · exact List.mem_cons_of_mem _ (ih hmem hc)
    · obtain ⟨first, parts, hparts⟩ := List.exists_cons_of_ne_nil (split_ne_nil sep cs)
      rw [hparts] at hpart ih
      rcases List.mem_cons.mp hpart with rfl | hmem
      · rcases List.mem_cons.mp hc with rfl | hc
        · exact List.mem_cons_self
        · exact List.mem_cons_of_mem _ (ih List.mem_cons_self hc)
      · exact List.mem_cons_of_mem _ (ih (List.mem_cons_of_mem _ hmem) hc)

end Text

namespace KeyStep

/-- The characters of a key: at least one, and all of them those of keys. -/
def IsName (cs : List Char) : Prop := cs ≠ [] ∧ cs.all isKeyChar = true

theorem isKeyChar_of_toLower {c : Char} (h : isKeyChar c.toLower = true) : isKeyChar c = true := by
  by_cases hupper : c.isUpper = true
  · have halpha : c.isAlphanum = true := by
      show ((c.isUpper || c.isLower) || c.isDigit) = true
      rw [hupper, Bool.true_or, Bool.true_or]
    simp [isKeyChar, halpha]
  · have hsame : c.toLower = c := dif_neg fun hc => hupper (decide_eq_true hc)
    rwa [hsame] at h

theorem IsName.of_toLower {cs : List Char} (h : IsName (cs.map Char.toLower)) : IsName cs := by
  refine ⟨fun hnil => h.1 (by rw [hnil]; rfl), List.all_eq_true.mpr fun c hc => ?_⟩
  exact isKeyChar_of_toLower (List.all_eq_true.mp h.2 _ (List.mem_map_of_mem hc))

theorem IsName.not_mem {cs : List Char} (h : IsName cs) {c : Char}
    (hc : isKeyChar c = false) : c ∉ cs := fun hmem => by
  rw [List.all_eq_true.mp h.2 c hmem] at hc
  cases hc

theorem readPart?_of_isName {cs : List Char} (h : IsName cs) :
    readPart? cs = some [key (String.ofList cs)] := by
  have hempty : cs.isEmpty = false := List.isEmpty_eq_false_iff.mpr h.1
  rw [readPart?, Text.split_of_not_mem (h.not_mem (by decide))]
  simp [hempty, h.2]

theorem readPart?_of_not_isName {cs : List Char} (hbracket : '[' ∉ cs) (h : ¬IsName cs) :
    readPart? cs = none := by
  have hbad : (cs.isEmpty || !cs.all isKeyChar) = true := by
    by_contra hgood
    refine h ⟨?_, ?_⟩ <;> simp_all
  rw [readPart?, Text.split_of_not_mem hbracket]
  simp only [hbad, if_true]

theorem path_of_names {cs : List Char} (h : ∀ part ∈ Text.split '.' cs, IsName part) :
    path (String.ofList cs) = (Text.split '.' cs).map fun part => key (String.ofList part) := by
  have hparts : ∀ {parts : List (List Char)}, (∀ part ∈ parts, IsName part) →
      parts.mapM readPart? = some (parts.map fun part => [key (String.ofList part)]) := by
    intro parts hparts
    induction parts with
    | nil => rfl
    | cons part parts ih =>
      obtain ⟨hpart, hrest⟩ := List.forall_mem_cons.mp hparts
      rw [List.mapM_cons, readPart?_of_isName hpart, ih hrest]
      rfl
  rw [path, String.toList_ofList, hparts h, List.map_eq_flatMap (f := fun part => key _)]
  exact List.flatMap_def.symm

/-- With a part that is no name, the whole text is one key. -/
theorem path_of_not_names {cs : List Char} (hbracket : '[' ∉ cs)
    (h : ¬∀ part ∈ Text.split '.' cs, IsName part) :
    path (String.ofList cs) = [key (String.ofList cs)] := by
  have hparts : ∀ {parts : List (List Char)}, (∀ part ∈ parts, '[' ∉ part) →
      (¬∀ part ∈ parts, IsName part) → parts.mapM readPart? = none := by
    intro parts hbrackets hparts
    induction parts with
    | nil => exact absurd (List.forall_mem_nil _) hparts
    | cons part parts ih =>
      obtain ⟨hfirst, hrest⟩ := List.forall_mem_cons.mp hbrackets
      rw [List.mapM_cons]
      by_cases hpart : IsName part
      · have hnone := ih hrest fun hall => hparts (List.forall_mem_cons.mpr ⟨hpart, hall⟩)
        rw [readPart?_of_isName hpart, hnone]
        rfl
      · rw [readPart?_of_not_isName hfirst hpart]
        rfl
  have hnone := hparts (fun part hpart hmem => hbracket (Text.mem_of_mem_split hpart hmem)) h
  rw [path, String.toList_ofList, hnone]

theorem IsName.split_eq {cs : List Char} (h : IsName cs) : Text.split '.' cs = [cs] :=
  Text.split_of_not_mem (h.not_mem (by decide))

end KeyStep

namespace Environment

/-- The parts between pairs of underscores. -/
def parts : List Char → List (List Char)
  | '_' :: '_' :: cs => [] :: parts cs
  | c :: cs =>
    match parts cs with
    | [] => [[c]]
    | part :: rest => (c :: part) :: rest
  | [] => [[]]

/-- Without dots in it, a name is split at the dots that take the place of underscores. -/
theorem split_dotted {cs : List Char} (h : '.' ∉ cs) : Text.split '.' (dotted cs) = parts cs := by
  fun_induction dotted cs with
  | case1 cs ih =>
    have hrest : '.' ∉ cs := fun hmem => h (by simp [hmem])
    rw [Text.split, if_pos rfl, ih hrest, parts]
  | case2 c cs hother ih =>
    obtain ⟨hc, hrest⟩ := not_or.mp (mt List.mem_cons.mpr h)
    have hsplit : Text.split '.' (c :: dotted cs) = _ := if_neg (Ne.symm hc)
    rw [ih hrest] at hsplit
    exact hsplit.trans (parts.eq_2 c cs hother).symm
  | case3 => rfl

/-- The characters behind the mark of settings. -/
def behindMark? (name : String) : Option (List Char) :=
  let cs := name.toList
  if (cs.take mark.length).map Char.toLower = mark.toList then some (cs.drop mark.length) else none

/-- The path that the characters behind the mark denote, without their case. -/
def denoted (cs : List Char) : List String :=
  (parts cs).map fun part => String.ofList (part.map Char.toLower)

/-- The path of a setting that the name of a variable denotes. -/
def path? (name : String) : Option (List String) := (behindMark? name).map denoted

theorem key?_eq (name : String) :
    key? name = (behindMark? name).map fun cs => String.ofList (dotted cs) := by
  simp only [key?, behindMark?]
  split <;> rfl

theorem mem_of_behindMark? {name : String} {cs : List Char} (h : behindMark? name = some cs)
    {c : Char} (hc : c ∈ cs) : c ∈ name.toList := by
  simp only [behindMark?] at h
  split at h <;> cases h
  exact List.mem_of_mem_drop hc

theorem mem_dotted {cs : List Char} {c : Char} (h : c ∈ dotted cs) : c = '.' ∨ c ∈ cs := by
  fun_induction dotted cs with
  | case1 cs ih =>
    rcases List.mem_cons.mp h with rfl | h
    · exact .inl rfl
    · exact (ih h).imp_right fun h => by simp [h]
  | case2 d cs hother ih =>
    rcases List.mem_cons.mp h with rfl | h
    · exact .inr List.mem_cons_self
    · exact (ih h).imp_right (List.mem_cons_of_mem _)
  | case3 => cases h

open Setting (Meets TableIfAny)

variable {cs : List Char} {other : List String}

theorem toLower_eq (s : String) : s.toLower = String.ofList (s.toList.map Char.toLower) := by
  have hmap : s.toLower.toList = s.toList.map Char.toLower := String.toList_map
  rw [← String.toList_inj, hmap, String.toList_ofList]

theorem toLower_ofList (part : List Char) :
    (String.ofList part).toLower = String.ofList (part.map Char.toLower) := by
  rw [toLower_eq, String.toList_ofList]

theorem isName_of_toLower {part : List Char}
    (h : KeyStep.IsName (String.ofList (part.map Char.toLower)).toList) : KeyStep.IsName part := by
  rw [String.toList_ofList] at h
  exact h.of_toLower

/-- The key of a variable is read as the path that the variable denotes. A path with a part that is no
name is read as one key instead; that one is no name either. -/
theorem exists_keys (hdot : '.' ∉ cs) (hbracket : '[' ∉ cs) (hother : other ≠ [])
    (hnames : ∀ n ∈ other, KeyStep.IsName n.toList) (hmeets : Meets (denoted cs) other →
      denoted cs = other) :
    ∃ keys, keys ≠ [] ∧ KeyStep.path (String.ofList (dotted cs)) = keys.map .key ∧
      (Meets (keys.map String.toLower) other → keys.map String.toLower = other) ∧
      (keys.map String.toLower = other ↔ denoted cs = other) := by
  have hsplit := split_dotted hdot
  by_cases hparts : ∀ part ∈ Text.split '.' (dotted cs), KeyStep.IsName part
  · refine ⟨(parts cs).map String.ofList, ?_, ?_, ?_⟩
    · simpa [← hsplit] using Text.split_ne_nil '.' (dotted cs)
    · rw [KeyStep.path_of_names hparts, hsplit, List.map_map]
      rfl
    · have hdenoted : ((parts cs).map String.ofList).map String.toLower = denoted cs := by
        rw [List.map_map]
        exact List.map_congr_left fun part _ => toLower_ofList part
      rw [hdenoted]
      exact ⟨hmeets, Iff.rfl⟩
  · have hwhole : '[' ∉ dotted cs := fun h => (mem_dotted h).elim (by decide) hbracket
    -- The key as a whole is no name, since it would be the only part.
    have hkey : ¬KeyStep.IsName (String.ofList (dotted cs)).toLower.toList := fun h => by
      rw [toLower_ofList] at h
      have hname := isName_of_toLower h
      rw [hname.split_eq] at hparts
      exact hparts fun part hpart => by rwa [List.mem_singleton.mp hpart]
    have hne : denoted cs ≠ other := fun h => hparts fun part hpart => by
      rw [hsplit] at hpart
      refine isName_of_toLower (hnames _ ?_)
      rw [← h]
      exact List.mem_map_of_mem hpart
    obtain ⟨first, rest, rfl⟩ := List.exists_cons_of_ne_nil hother
    have hfirst : (String.ofList (dotted cs)).toLower ≠ first := fun h =>
      hkey (h ▸ hnames first List.mem_cons_self)
    refine ⟨[String.ofList (dotted cs)], List.cons_ne_nil _ _,
      KeyStep.path_of_not_names hwhole hparts, ?_, ?_⟩
    · rintro (h | h)
      · exact absurd (List.cons_prefix_cons.mp h).1 hfirst
      · exact absurd (List.cons_prefix_cons.mp h).1.symm hfirst
    · exact iff_of_false (fun h => hfirst (List.cons.inj h).1) hne

theorem overlay_value (old : Option Setting) (s : String) :
    Setting.overlay old (value s) = value s := by
  unfold value
  split
  · rfl
  · split
    · rfl
    · split
      · rfl
      · split <;> rfl

/-- The value that the environment has for a path. -/
def valueAt? (env : Environment) (path : List String) : Option Setting :=
  (env.find? fun e => path? e.1 == some path).map fun e => value e.2

/-- Variables that name settings of their own: no two denote the same path, and no path leads through
the end of one of `leaves`, or past it. Neither dots nor brackets are in the names. -/
structure Clear (env : Environment) (leaves : List (List String)) : Prop where
  names : ∀ e ∈ env, '.' ∉ e.1.toList ∧ '[' ∉ e.1.toList
  distinct : (env.filterMap fun e => path? e.1).Nodup
  meets : ∀ e ∈ env, ∀ path ∈ path? e.1, ∀ leaf ∈ leaves, Meets path leaf → path = leaf

theorem Clear.tail {e : String × String} {env : Environment} {leaves : List (List String)}
    (h : Clear (e :: env) leaves) : Clear env leaves where
  names := (List.forall_mem_cons.mp h.names).2
  distinct := by
    have hsublist : (env.filterMap fun e => path? e.1).Sublist
        ((e :: env).filterMap fun e => path? e.1) := (List.sublist_cons_self e env).filterMap _
    exact hsublist.nodup h.distinct
  meets := (List.forall_mem_cons.mp h.meets).2

section Layers

variable {env : Environment} {leaves : List (List String)} {leaf : List String}

/-- A variable is laid over the rest along keys that meet a leaf only where its path does. -/
theorem Clear.exists_keys {e : String × String} (h : Clear (e :: env) leaves) (hleaf : leaf ∈ leaves)
    (hne : leaf ≠ []) (hnames : ∀ n ∈ leaf, KeyStep.IsName n.toList)
    (hcs : behindMark? e.1 = some cs) :
    ∃ keys, keys ≠ [] ∧ KeyStep.path (String.ofList (dotted cs)) = keys.map .key ∧
      (Meets (keys.map String.toLower) leaf → keys.map String.toLower = leaf) ∧
      (keys.map String.toLower = leaf ↔ denoted cs = leaf) := by
  obtain ⟨hdot, hbracket⟩ := h.names e List.mem_cons_self
  have hpath : path? e.1 = some (denoted cs) := by rw [path?, hcs]; rfl
  exact Environment.exists_keys (fun hmem => hdot (mem_of_behindMark? hcs hmem))
    (fun hmem => hbracket (mem_of_behindMark? hcs hmem)) hne hnames
    (h.meets e List.mem_cons_self _ hpath leaf hleaf)

theorem settings_cons (e : String × String) (env : Environment) : settings (e :: env) =
    match behindMark? e.1 with
    | some cs => (String.ofList (dotted cs), value e.2) :: settings env
    | none => settings env := by
  rw [settings, List.filterMap_cons, key?_eq]
  cases behindMark? e.1 <;> rfl

theorem valueAt?_cons (e : String × String) (env : Environment) (path : List String) :
    valueAt? (e :: env) path =
      if path? e.1 = some path then some (value e.2) else valueAt? env path := by
  by_cases h : path? e.1 = some path <;> simp [valueAt?, h]

theorem Clear.valueAt?_eq_none {e : String × String} (h : Clear (e :: env) leaves)
    {path : List String} (hpath : path? e.1 = some path) : valueAt? env path = none := by
  have hdistinct := h.distinct
  rw [List.filterMap_cons, hpath, List.nodup_cons] at hdistinct
  rw [valueAt?, Option.map_eq_none_iff, List.find?_eq_none]
  intro other hmem hsame
  exact hdistinct.1 (List.mem_filterMap.mpr ⟨other, hmem, eq_of_beq hsame⟩)

/-- The whole environment over other settings: a leaf has the value of the variable for it, or else
the one that it had. -/
theorem Clear.at?_layer (h : Clear env leaves) (hleaf : leaf ∈ leaves) (hne : leaf ≠ [])
    (hnames : ∀ n ∈ leaf, KeyStep.IsName n.toList) (root : Setting) :
    (root.layer env.settings).at? leaf = (env.valueAt? leaf).or (root.at? leaf) := by
  induction env generalizing root with
  | nil => rfl
  | cons e env ih =>
    rw [settings_cons, valueAt?_cons]
    cases hcs : behindMark? e.1 with
    | none =>
      have hpath : path? e.1 ≠ some leaf := by simp [path?, hcs]
      rw [if_neg hpath]
      exact ih h.tail root
    | some cs =>
      have hpath : path? e.1 = some leaf ↔ denoted cs = leaf := by
        rw [path?, hcs]
        exact Option.some_inj
      obtain ⟨keys, hkeys, hread, hmeets, hsame⟩ := h.exists_keys hleaf hne hnames hcs
      rw [Setting.layer, List.foldl_cons, hread]
      refine (ih h.tail _).trans ?_
      rw [Setting.at?_assign hkeys hmeets, overlay_value]
      -- No later variable denotes the same path, so the value stays.
      by_cases hdenoted : denoted cs = leaf
      · rw [if_pos (hsame.mpr hdenoted), if_pos (hpath.mpr hdenoted),
          h.valueAt?_eq_none (hpath.mpr hdenoted)]
        rfl
      · rw [if_neg (mt hsame.mp hdenoted), if_neg (mt hpath.mp hdenoted)]

/-- What is a table where a leaf lies, or missing, is so behind the environment. -/
theorem Clear.tableIfAny {name key : String} (h : Clear env leaves) (hleaf : [name, key] ∈ leaves)
    (hnames : ∀ n ∈ [name, key], KeyStep.IsName n.toList) {root : Setting}
    (htable : TableIfAny (root.get? name)) : TableIfAny ((root.layer env.settings).get? name) := by
  induction env generalizing root with
  | nil => exact htable
  | cons e env ih =>
    rw [settings_cons]
    cases hcs : behindMark? e.1 with
    | none => exact ih h.tail htable
    | some cs =>
      obtain ⟨keys, hkeys, hread, hmeets, -⟩ :=
        h.exists_keys hleaf (List.cons_ne_nil _ _) hnames hcs
      have hshort : keys.map String.toLower ≠ [name] := fun heq => by
        rw [heq] at hmeets
        have hlonger := hmeets (.inl (List.prefix_append [name] [key]))
        simp at hlonger
      rw [Setting.layer, List.foldl_cons, hread]
      exact ih h.tail (htable.assign hkeys hshort _)

end Layers

end Environment

end PagedQuery
