import PagedQuery.Proofs.Text.Blank
import PagedQuery.Proofs.Text.Reading
import PagedQuery.Sort

/-! Sort orders that their text form can hold: exactly those are read back from it, and nothing else
is ever read. -/

namespace PagedQuery.SortKey

open Text

/-- The text form can hold the key: its name is not empty, has no comma and no blanks at its ends,
and is not taken for a descending one. -/
structure Expressible (k : SortKey) : Prop where
  nonempty : k.name ≠ ""
  no_comma : ',' ∉ k.name.toList
  trimmed : Trimmed k.name.toList
  no_dash : k.direction = .asc → k.name.toList.head? ≠ some '-'

theorem ofPart?_of_asc {cs name : List Char} (h : trimChars cs = name) (hne : name ≠ [])
    (hdash : name.head? ≠ some '-') : ofPart? cs = some (asc (String.ofList name)) := by
  unfold ofPart?
  rw [h]
  split
  · exact absurd rfl hne
  · exact absurd rfl hdash
  · rfl

theorem ofPart?_of_desc {cs rest name : List Char} (h : trimChars cs = '-' :: rest)
    (hname : trimChars rest = name) (hne : name ≠ []) :
    ofPart? cs = some (desc (String.ofList name)) := by
  unfold ofPart?
  rw [h]
  simp only [hname]

/-- A key that can be expressed is read from its text. -/
theorem Expressible.ofPart?_text {k : SortKey} (h : k.Expressible) :
    ofPart? k.text.toList = some k := by
  obtain ⟨name, direction⟩ := k
  obtain ⟨hname, -, htrimmed, hdash⟩ := h
  have hne : name.toList ≠ [] := fun hnil => hname (String.toList_eq_nil_iff.mp hnil)
  cases direction with
  | asc =>
    have hpart := ofPart?_of_asc htrimmed.trimChars_eq hne (hdash rfl)
    rwa [String.ofList_toList] at hpart
  | desc =>
    have hdashed : Trimmed ('-' :: name.toList) := by
      constructor
      · rintro c ⟨⟩
        decide
      · rw [List.getLast?_cons_of_ne_nil hne]
        exact htrimmed.last
    have htext : (text ⟨name, .desc⟩).toList = '-' :: name.toList := String.toList_append
    have hpart := ofPart?_of_desc hdashed.trimChars_eq htrimmed.trimChars_eq hne
    rwa [String.ofList_toList, ← htext] at hpart

/-- What is read of a part without commas can be expressed. -/
theorem expressible_of_ofPart? {cs : List Char} {k : SortKey} (hcomma : ',' ∉ cs)
    (h : ofPart? cs = some k) : k.Expressible := by
  have hpart : ',' ∉ trimChars cs := fun hmem => hcomma (mem_of_mem_trimChars hmem)
  have htrimmed := trimmed_trimChars cs
  unfold ofPart? at h
  generalize trimChars cs = part at h hpart htrimmed
  split at h
  · nomatch h
  · rename_i rest
    have hrest : ',' ∉ trimChars rest := fun hmem =>
      hpart (List.mem_cons_of_mem _ (mem_of_mem_trimChars hmem))
    have hname := trimmed_trimChars rest
    generalize trimChars rest = name at h hrest hname
    split at h
    · nomatch h
    · rename_i hne
      obtain rfl := Option.some.inj h
      refine ⟨?_, ?_, ?_, fun hasc => nomatch hasc⟩
      · rwa [desc, ne_eq, String.ofList_eq_empty_iff]
      · rwa [desc, String.toList_ofList]
      · rwa [desc, String.toList_ofList]
  · rename_i hne hdash
    obtain rfl := Option.some.inj h
    refine ⟨?_, ?_, ?_, fun _ hhead => ?_⟩
    · rwa [asc, ne_eq, String.ofList_eq_empty_iff]
    · rwa [asc, String.toList_ofList]
    · rwa [asc, String.toList_ofList]
    · rw [asc, String.toList_ofList] at hhead
      obtain ⟨rest, rfl⟩ := List.head?_eq_some_iff.mp hhead
      exact hdash rest rfl

theorem expressible_of_mem_parseList {s : String} {k : SortKey} (h : k ∈ parseList s) :
    k.Expressible := by
  obtain ⟨part, hpart, hk⟩ := List.mem_filterMap.mp h
  exact expressible_of_ofPart? (not_mem_of_mem_split hpart) hk

theorem Expressible.not_mem_text {k : SortKey} (h : k.Expressible) : ',' ∉ k.text.toList := by
  obtain ⟨name, direction⟩ := k
  cases direction with
  | asc => exact h.no_comma
  | desc =>
    rw [text, String.toList_append, List.mem_append, not_or]
    exact ⟨by decide, h.no_comma⟩

theorem parseList_listText {keys : List SortKey} (h : ∀ k ∈ keys, k.Expressible) :
    parseList (listText keys) = keys := by
  cases keys with
  | nil => rfl
  | cons first rest =>
    have hparts : split ',' (listText (first :: rest)).toList =
        (first :: rest).map fun k => k.text.toList := by
      rw [listText, String.toList_intercalate, List.map_map]
      refine split_intercalate (List.cons_ne_nil _ _) fun part hpart => ?_
      obtain ⟨k, hk, rfl⟩ := List.mem_map.mp hpart
      exact (h k hk).not_mem_text
    have hread : ∀ k ∈ first :: rest, (ofPart? ∘ fun k => k.text.toList) k = some k :=
      fun k hk => (h k hk).ofPart?_text
    rw [parseList, hparts, List.filterMap_map, List.filterMap_congr hread, List.filterMap_some]

/-- A sort order is read back from its text when all its keys can be expressed. -/
theorem parseList_listText_iff {keys : List SortKey} :
    parseList (listText keys) = keys ↔ ∀ k ∈ keys, k.Expressible := by
  constructor
  · intro h k hk
    rw [← h] at hk
    exact expressible_of_mem_parseList hk
  · exact parseList_listText

/-- The orders that are read from some text are exactly those that their text form can hold, and just
these are read back from it. So a text is read as the text form of what was read of it. -/
theorem read_exactly_expressible :
    (∀ s, ∀ k ∈ parseList s, k.Expressible) ∧
      (∀ keys, (∃ s, parseList s = keys) ↔ ∀ k ∈ keys, k.Expressible) ∧
      (∀ keys, parseList (listText keys) = keys ↔ ∀ k ∈ keys, k.Expressible) ∧
      ∀ s, parseList (listText (parseList s)) = parseList s := by
  have hread : ∀ s, ∀ k ∈ parseList s, k.Expressible := fun s k hk =>
    expressible_of_mem_parseList hk
  refine ⟨hread, fun keys => ⟨?_, fun h => ?_⟩, fun keys => parseList_listText_iff, fun s => ?_⟩
  · rintro ⟨s, rfl⟩
    exact hread s
  · exact ⟨listText keys, parseList_listText h⟩
  · exact parseList_listText (hread s)

/-- Empty parts, lone dashes, dashes in names, and blanks beyond the space. -/
theorem read_exactly_expressible_noise :
    let noise := " ,title\u00a0,-,- -rank,\u2003--,"
    parseList noise = [asc "title", desc "-rank", desc "-"] ∧
      (∀ k ∈ [asc "title", desc "-rank", desc "-"], k.Expressible) ∧
      parseList (listText [asc "title", desc "-rank", desc "-"]) =
        [asc "title", desc "-rank", desc "-"] := by
  intro noise
  have hnoise : parseList noise = [asc "title", desc "-rank", desc "-"] := by decide
  obtain ⟨hread, -, -, hback⟩ := read_exactly_expressible
  rw [← hnoise]
  exact ⟨rfl, hread noise, hback noise⟩

-- A dash in front of a name stays where the order descends and is lost where it ascends.
example : parseList (listText [desc "-rank", asc "title"]) = [desc "-rank", asc "title"] := by decide

example : parseList (listText [asc "-rank", asc "title"]) = [desc "rank", asc "title"] := by decide

end PagedQuery.SortKey
