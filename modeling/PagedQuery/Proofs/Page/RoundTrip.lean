import PagedQuery.Page.Request
import PagedQuery.Proofs.Json.Reading
import PagedQuery.Proofs.Sort.RoundTrip

/-! Requests in JSON: which of them are read back from what they are written as, and that all requests
are which come about by the operations on them. -/

namespace PagedQuery.PageRequest

theorem toJson_eq (r : PageRequest) : ∃ search,
    Json.decodeOption Json.decodeString search = .ok r.search ∧
      r.toJson = .object [("page", .int r.number.toInt), ("page_size", .int r.size.toInt),
        ("search", search), ("sort", .string (SortKey.listText r.order))] := by
  obtain ⟨number, size, search, order⟩ := r
  cases search with
  | none => exact ⟨.null, rfl, rfl⟩
  | some text => exact ⟨.string text, rfl, rfl⟩

/-- Reading what was written gives the request with the order that its text holds. -/
theorem decode_toJson (r : PageRequest) :
    decode r.toJson = .ok (r.sortedBy (SortKey.listText r.order)) := by
  obtain ⟨search, hread, hjson⟩ := r.toJson_eq
  have hnumber : record.Sets ("page", .int r.number.toInt) fun s => { s with number := r.number } :=
    ⟨_, rfl, Json.Field.read_of_eq_ok_iff.mpr ⟨r.number, Json.decodeInt64_toInt r.number, rfl⟩⟩
  have hsize : record.Sets ("page_size", .int r.size.toInt) fun s => { s with size := r.size } :=
    ⟨_, rfl, Json.Field.read_of_eq_ok_iff.mpr ⟨r.size, Json.decodeInt64_toInt r.size, rfl⟩⟩
  have hsearch : record.Sets ("search", search) fun s => { s with search := r.search } :=
    ⟨_, rfl, Json.Field.read_of_eq_ok_iff.mpr ⟨r.search, hread, rfl⟩⟩
  have horder : record.Sets ("sort", .string (SortKey.listText r.order)) fun s =>
      s.sortedBy (SortKey.listText r.order) :=
    ⟨_, rfl, Json.Field.read_of_eq_ok_iff.mpr ⟨_, rfl, rfl⟩⟩
  rw [hjson]
  refine Json.Record.ofObject_of_sets
    (.cons hnumber (.cons hsize (.cons hsearch (.cons horder .nil)))) fun field hfield => ?_
  -- Every field has a default, so none is missed.
  simp only [record, List.mem_cons, List.not_mem_nil, or_false] at hfield
  rcases hfield with rfl | rfl | rfl | rfl <;> rintro ⟨⟩

/-- Only the order can get lost. -/
theorem decode_toJson_eq_ok_iff {r : PageRequest} :
    decode r.toJson = .ok r ↔ ∀ k ∈ r.order, k.Expressible := by
  rw [← SortKey.parseList_listText_iff, decode_toJson, Except.ok.injEq]
  constructor
  · intro h
    exact congrArg order h
  · intro h
    rw [sortedBy, h]

/-- An order that was read can be expressed: it is the default one, or it was read from a text. -/
theorem expressible_of_decode {j : Json} {r : PageRequest} (h : decode j = .ok r) :
    ∀ k ∈ r.order, k.Expressible := by
  have hblank : ∀ k ∈ record.blank.order, k.Expressible := List.forall_mem_nil _
  refine Json.Record.decode_keeps (P := fun s => ∀ k ∈ s.order, k.Expressible) hblank ?_ h
  intro field hfield j set hset s hs
  simp only [record, List.mem_cons, List.not_mem_nil, or_false] at hfield
  rcases hfield with rfl | rfl | rfl | rfl
  all_goals obtain ⟨a, ha, rfl⟩ := Json.Field.read_of_eq_ok_iff.mp hset
  · exact hs
  · exact hs
  · exact hs
  · obtain ⟨text, -, rfl⟩ := map_eq_ok_iff.mp ha
    intro k hk
    cases text with
    | none => nomatch hk
    | some text => exact SortKey.expressible_of_mem_parseList hk

/-- What is done to a request before it is used. -/
inductive Change where
  | searching (text : String)
  | sortedBy (text : String)
  | bounded (b : PageBounds)

def change (r : PageRequest) : Change → PageRequest
  | .searching text => r.searching text
  | .sortedBy text => r.sortedBy text
  | .bounded b => r.bounded b

def changes (r : PageRequest) (asked : List Change) : PageRequest := asked.foldl change r

/-- How a request begins: as the default one, by number and size, or from any JSON that is
accepted. -/
inductive Begins : PageRequest → Prop where
  | default : Begins {}
  | of (number size : Int64) : Begins (of number size)
  | decoded {j : Json} {r : PageRequest} (h : decode j = .ok r) : Begins r

theorem Begins.expressible {r : PageRequest} (h : r.Begins) : ∀ k ∈ r.order, k.Expressible := by
  cases h with
  | default => exact List.forall_mem_nil _
  | of number size => exact List.forall_mem_nil _
  | decoded h => exact expressible_of_decode h

theorem expressible_change {r : PageRequest} (h : ∀ k ∈ r.order, k.Expressible) (c : Change) :
    ∀ k ∈ (r.change c).order, k.Expressible := by
  cases c with
  | searching text => exact h
  | sortedBy text => exact fun k hk => SortKey.expressible_of_mem_parseList hk
  | bounded b => exact h

theorem expressible_changes {r : PageRequest} (h : ∀ k ∈ r.order, k.Expressible)
    (asked : List Change) : ∀ k ∈ (r.changes asked).order, k.Expressible := by
  induction asked generalizing r with
  | nil => exact h
  | cons c rest ih => exact ih (expressible_change h c)

/-- A request is read back from its JSON when every key of its order can be expressed, and only then.
That is so for every request, however it begins and whatever is done to it. -/
theorem read_back_iff_expressible :
    (∀ r : PageRequest, decode r.toJson = .ok r ↔ ∀ k ∈ r.order, k.Expressible) ∧
    ∀ r : PageRequest, r.Begins → ∀ asked : List Change,
      (∀ k ∈ (r.changes asked).order, k.Expressible) ∧
        decode (r.changes asked).toJson = .ok (r.changes asked) := by
  refine ⟨fun r => decode_toJson_eq_ok_iff, fun r hr asked => ?_⟩
  have hkeys := expressible_changes hr.expressible asked
  exact ⟨hkeys, decode_toJson_eq_ok_iff.mpr hkeys⟩

end PagedQuery.PageRequest
