import PagedQuery.Proofs.Document.Columns
import PagedQuery.Proofs.Document.Operation
import PagedQuery.Proofs.Page.Normal
import PagedQuery.Proofs.Selection.Ordering
import PagedQuery.Proofs.Selection.Shape
import PagedQuery.Proofs.Storage.SameTexts

/-! The texts that the operations of the store send do not depend on what clients put in: not at all
but for lists, and there only on which filters are set and on the sort keys that are columns. -/

namespace PagedQuery

namespace Selection

variable {s t : Selection} {p : Projection}

theorem SameShape.whereClause_sql (h : s.SameShape t) (start : Nat) :
    (s.whereClause start).sql = (t.whereClause start).sql := by
  rw [whereClause_eq, whereClause_eq]
  exact (Query.sameText_of_segments h.segments_filterClause start).sql_eq

/-- Selections whose conditions have the same shape, and that are then sorted by the same columns,
lead to the same texts. -/
theorem SameShape.texts_orderedBy (h : s.SameShape t) (hp : s.projection = p)
    (hindexed : p.columns.Indexed) {keys others : List SortKey}
    (hkeys : (keys.filter fun k => k.name ∈ p.names) = others.filter fun k => k.name ∈ p.names) :
    (s.orderedBy keys).countQuery.sql = (t.orderedBy others).countQuery.sql ∧
      (s.orderedBy keys).rowsQuery.sql = (t.orderedBy others).rowsQuery.sql := by
  have hp' : t.projection = p := h.projection.symm.trans hp
  have hwhere : ((s.orderedBy keys).whereClause 1).sql = ((t.orderedBy others).whereClause 1).sql :=
    h.whereClause_sql 1
  have hrequested : (s.orderedBy keys).requestedEntries = (t.orderedBy others).requestedEntries :=
    requestedEntries_congr hp hp' hindexed hkeys
  have hdefault : (s.orderedBy keys).defaultEntries = (t.orderedBy others).defaultEntries := by
    simp only [defaultEntries, orderedBy, h.projection, h.defaultOrder]
  have horder : (s.orderedBy keys).orderClause = (t.orderedBy others).orderClause := by
    rw [orderClause, orderClause, hrequested, hdefault]
  have hprojection : (s.orderedBy keys).projection = (t.orderedBy others).projection := h.projection
  rw [countQuery_sql, countQuery_sql, rowsQuery_sql, rowsQuery_sql, hwhere, horder, hprojection]
  exact ⟨rfl, rfl⟩

end Selection

namespace Document

/-- The same fields are set in both filters, and as many categories; a blank title is none. -/
structure Filter.SameFields (f g : Filter) : Prop where
  status : f.status.isSome = g.status.isSome
  tag : f.tag.isSome = g.tag.isSome
  contentType : f.contentType.isSome = g.contentType.isSome
  title : Text.HasText f.title ↔ Text.HasText g.title
  categoryIds : f.categoryIds.length = g.categoryIds.length
  createdAfter : f.createdAfter.isSome = g.createdAfter.isSome
  createdBefore : f.createdBefore.isSome = g.createdBefore.isSome
  category : f.category.map Option.isSome = g.category.map Option.isSome

theorem isSome_eq_of_hasText {text other : Option String}
    (h : Text.HasText text ↔ Text.HasText other) :
    (text.bind Text.nonBlank?).isSome = (other.bind Text.nonBlank?).isSome := by
  rw [Bool.eq_iff_iff, Text.isSome_bind_nonBlank?, Text.isSome_bind_nonBlank?, h]

/-- Filters with the same fields narrow in steps of the same shape. -/
theorem Filter.SameFields.steps {f g : Filter} (h : f.SameFields g) :
    List.Forall₂ SelectionStep.SameShape f.steps g.steps := by
  refine List.rel_append ?fields ?category
  case fields =>
    refine .cons (.equalTo _ (by simpa using h.status)) ?_
    refine .cons (.equalTo _ (by simpa using h.tag)) ?_
    refine .cons (.equalTo _ (by simpa using h.contentType)) ?_
    refine .cons (.holding _ (isSome_eq_of_hasText h.title)) ?_
    refine .cons (.among _ (by simpa using h.categoryIds)) ?_
    refine .cons (.compared _ _ (by simpa using h.createdAfter)) ?_
    exact .cons (.compared _ _ (by simpa using h.createdBefore)) .nil
  case category =>
    have hset := h.category
    cases hf : f.category with
    | none =>
      cases hg : g.category with
      | none => exact .nil
      | some other => simp [hf, hg] at hset
    | some category =>
      cases hg : g.category with
      | none => simp [hf, hg] at hset
      | some other =>
        have hsome : category.isSome = other.isSome := by simpa [hf, hg] using hset
        exact .cons (.equalOrNull _ (by simpa using hsome)) .nil

namespace Store

/-- What shows of a request for a page is the same in both: number and size within bounds, whether
there is a text to search for, and the sort keys that are columns. -/
structure SameView (bounds others : PageBounds) (r r' : PageRequest) : Prop where
  number : (r.bounded bounds).number = (r'.bounded others).number
  size : (r.bounded bounds).size = (r'.bounded others).size
  search : Text.HasText r.search ↔ Text.HasText r'.search
  order : (r.order.filter fun k => k.name ∈ projection.names) =
    r'.order.filter fun k => k.name ∈ projection.names

/-- The same operation, on inputs of which the same may show. -/
inductive Operation.Alike : Operation → Operation → Prop
  | list {bounds others : PageBounds} {r r' : PageRequest} {f g : Filter}
    (hview : SameView bounds others r r') (hfields : f.SameFields g) :
    Alike (.list bounds r f) (.list others r' g)
  | fetch (id other : Uuid) : Alike (.fetch id) (.fetch other)
  | fetchSame (checksum other : String) : Alike (.fetchSame checksum) (.fetchSame other)
  | store (d other : Draft) : Alike (.store d) (.store other)
  | setStatus (id otherId : Uuid) (status otherStatus : String) :
    Alike (.setStatus id status) (.setStatus otherId otherStatus)
  | remove (id other : Uuid) : Alike (.remove id) (.remove other)

open Dialogue (SameTexts)

theorem sameShape_everything : everything.SameShape everything := ⟨rfl, .nil, rfl, rfl⟩

theorem listed_texts {bounds others : PageBounds} {r r' : PageRequest} {f g : Filter}
    (hview : SameView bounds others r r') (hfields : f.SameFields g) :
    (listed (r.bounded bounds) f).countQuery.sql = (listed (r'.bounded others) g).countQuery.sql ∧
      (listed (r.bounded bounds) f).rowsQuery.sql =
        (listed (r'.bounded others) g).rowsQuery.sql := by
  have hsearch : Text.HasText (r.bounded bounds).search ↔ Text.HasText (r'.bounded others).search :=
    (r.hasText_bounded bounds).trans (hview.search.trans (r'.hasText_bounded others).symm)
  have hshape := sameShape_everything.steps (List.rel_append hfields.steps
    (.cons (.searching searchNames (isSome_eq_of_hasText hsearch)) .nil))
  have htexts := hshape.texts_orderedBy (Selection.projection_steps everything _)
    resolves_projection.indexed hview.order
  have hlisted : ∀ request filter, listed request filter =
      (everything.steps (Filter.steps filter ++ [.searching request.search searchNames])).orderedBy
        request.order := by
    intro request filter
    simp only [listed, Selection.steps_append]
    rfl
  rw [hlisted, hlisted]
  exact htexts

theorem sameTexts_pageOf {r r' : PageRequest} (hnumber : r.number = r'.number)
    (hsize : r.size = r'.size) {s t : Selection} (hrows : s.rowsQuery.sql = t.rowsQuery.sql)
    (total : Int64) : SameTexts (pageOf r s total) (pageOf r' t total) := by
  have hoffset : r.offset = r'.offset := by rw [PageRequest.offset, hnumber, hsize]; rfl
  have hanswering : ∀ rows : List Document,
      Page.answering rows total r = Page.answering rows total r' := fun rows => by
    rw [Page.answering, hnumber, hsize]
    rfl
  have hpage : (s.pageQuery r.number r.size).sql = (t.pageQuery r'.number r'.size).sql := by
    simp only [Selection.pageQuery, hrows, hnumber, hsize]
  rw [pageOf, pageOf, hoffset]
  split
  · rw [hanswering]
    exact .reportLeft _ (.reportRight _ (.refl _))
  · apply SameTexts.bind
    · rw [fetchPage, fetchPage, Dialogue.allRows_eq, Dialogue.allRows_eq]
      exact (SameTexts.exchange hpage _ _ _).tellAll _ _
    · rintro (e | rows)
      · exact .refl _
      · simp only [hanswering]
        exact .refl _

theorem sameTexts_list {bounds others : PageBounds} {r r' : PageRequest} {f g : Filter}
    (hview : SameView bounds others r r') (hfields : f.SameFields g) :
    SameTexts (list bounds r f) (list others r' g) := by
  obtain ⟨hcount, hrows⟩ := listed_texts hview hfields
  rw [list, list, Dialogue.countRows_eq, Dialogue.countRows_eq]
  apply (SameTexts.exchange hcount _ _ _).bind
  rintro (e | total)
  · exact .refl _
  · exact sameTexts_pageOf hview.number hview.size hrows total

theorem sameTexts_fetch (id other : Uuid) : SameTexts (fetch id) (fetch other) := by
  have hsql : (everything.byIdQuery "id" (.value (.uuid id))).sql =
      (everything.byIdQuery "id" (.value (.uuid other))).sql := rfl
  rw [fetch, fetch, Dialogue.oneRow_eq, Dialogue.oneRow_eq]
  exact (SameTexts.exchange hsql _ _ _).bind fun _ => .refl _

theorem sameTexts_fetchSame? (checksum other : String) :
    SameTexts (fetchSame? checksum) (fetchSame? other) := by
  have hshape := sameShape_everything.step
    (a := .equalTo "checksum" (some (.text checksum)))
    (b := .equalTo "checksum" (some (.text other))) (.equalTo _ rfl)
  have hfirst : (everything.equalTo "checksum" (some (.text checksum))).firstQuery.sql =
      (everything.equalTo "checksum" (some (.text other))).firstQuery.sql :=
    congrArg (· ++ " LIMIT 1") (hshape.texts_orderedBy rfl resolves_projection.indexed rfl).2
  rw [fetchSame?, fetchSame?, Dialogue.firstRow_eq, Dialogue.firstRow_eq]
  exact (SameTexts.exchange hfirst _ _ _).bind fun _ => .refl _

theorem sameTexts_insert (d other : Draft) : SameTexts (insert d) (insert other) := by
  have hsql : Query.sql ⟨insertSql, d.args⟩ = Query.sql ⟨insertSql, other.args⟩ := rfl
  rw [insert, insert, Dialogue.oneRow_eq, Dialogue.oneRow_eq]
  exact (SameTexts.exchange hsql _ _ _).bind fun _ => .refl _

theorem sameTexts_changeOne (sql : String) (args others : List Arg) :
    SameTexts (changeOne ⟨sql, args⟩) (changeOne ⟨sql, others⟩) := by
  have hsql : Query.sql ⟨sql, args⟩ = Query.sql ⟨sql, others⟩ := rfl
  rw [changeOne, changeOne, Dialogue.changeRows_eq, Dialogue.changeRows_eq]
  exact (SameTexts.exchange hsql _ _ _).bind fun _ => .refl _

theorem Operation.Alike.sameTexts {a b : Operation} (h : a.Alike b) :
    SameTexts a.dialogue b.dialogue := by
  cases h with
  | list hview hfields => exact (sameTexts_list hview hfields).bind fun _ => .refl _
  | fetch id other => exact (sameTexts_fetch id other).bind fun _ => .refl _
  | fetchSame checksum other => exact (sameTexts_fetchSame? checksum other).bind fun _ => .refl _
  | store d other =>
    exact ((sameTexts_insert d other).transaction Error.storage).bind fun _ => .refl _
  | setStatus id otherId status otherStatus =>
    exact (sameTexts_changeOne setStatusSql _ _).bind fun _ => .refl _
  | remove id other => exact (sameTexts_changeOne removeSql _ _).bind fun _ => .refl _

/-- Whatever clients put into an operation, the same replies lead to the same texts, and to the same
outcome. For a list this holds of two calls with the same page within bounds, the same fields set in
the filter, a text to search for in both or in neither, and the same sort keys among the columns. -/
theorem texts_hide_input {a b : Operation} (h : a.Alike b) {σ : Type}
    {answer : σ → Statement → Reply × σ} (hblind : Dialogue.BlindToArgs answer) (s : σ) :
    (a.dialogue.run answer s).sent.map Statement.sql =
        (b.dialogue.run answer s).sent.map Statement.sql ∧
      (a.dialogue.run answer s).value = (b.dialogue.run answer s).value :=
  h.sameTexts.run hblind s

/-- A harmless list and one with hostile values and a hostile sort key, of thirty documents. -/
theorem texts_hide_input_hostile :
    let plain : Operation := .list {} { search := some "tax", order := [.asc "title"] }
      { status := some "review", categoryIds := [⟨1⟩], category := some none }
    let hostile : Operation := .list {}
      { search := some "'; drop table documents; --", order := [.desc "id; --", .asc "title"] }
      { status := some "$9' OR 1=1 --", categoryIds := [⟨2⟩], category := some none }
    let server : Script := ⟨[.ok (.ofRows ["count"] [[some (.bigint 30)]])], []⟩
    plain.Alike hostile ∧ Dialogue.BlindToArgs Script.answer ∧
      (plain.dialogue.run Script.answer server).sent.map Statement.sql =
        (hostile.dialogue.run Script.answer server).sent.map Statement.sql := by
  intro plain hostile server
  have hview : SameView {} {} { search := some "tax", order := [.asc "title"] }
      { search := some "'; drop table documents; --", order := [.desc "id; --", .asc "title"] } := by
    have htext : ∀ text : String, 'a' ∈ text.toList → Text.HasText (some text) :=
      fun text hmem => ⟨text, rfl, fun hblank => absurd (hblank 'a' hmem) (by decide)⟩
    refine ⟨rfl, rfl, iff_of_true (htext _ (by decide)) (htext _ (by decide)), ?_⟩
    rw [names_projection]
    decide
  have halike : plain.Alike hostile :=
    .list hview ⟨rfl, rfl, rfl, Iff.rfl, rfl, rfl, rfl, rfl⟩
  exact ⟨halike, Dialogue.blindToArgs_script,
    (texts_hide_input halike Dialogue.blindToArgs_script server).1⟩

end Store

end Document

end PagedQuery
