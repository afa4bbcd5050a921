import PagedQuery.Document.Store
import PagedQuery.Proofs.Page.Bounds
import PagedQuery.Proofs.Storage.Runs

/-! Listing one page against a server that holds a fixed list of rows: the window of the documents
that the page shows, and totals that do not depend on the page. -/

namespace PagedQuery

/-- A server that answers the queries of a selection from a fixed list of rows, in any of its
states: the count of the rows, and under any limit and offset the rows that they leave. -/
structure Answers {σ : Type} (answer : σ → Statement → Reply × σ) (s : Selection)
    (rows : List Row) : Prop where
  count : ∀ state, ∃ result row rest, (answer state s.countQuery.statement).1 = .ok result ∧
    result.rows = row :: rest ∧ Row.single Cell.bigint row = .ok (Int64.ofNat rows.length)
  window : ∀ state (limit offset : Int64), 0 < limit → 0 ≤ offset → ∃ result,
    (answer state (Query.statement ⟨s.rowsQuery.sql ++
        (" LIMIT " ++ toString limit ++ " OFFSET " ++ toString offset), s.rowsQuery.args⟩)).1 =
          .ok result ∧
      result.rows = (rows.drop offset.toInt.toNat).take limit.toInt.toNat

namespace Document.Store

/-- The page after `i` others, of `size` documents each. -/
def pageAfter (documents : List Document) (size : Int64) (i : Nat) : Page Document :=
  .of ((documents.drop (i * size.toInt.toNat)).take size.toInt.toNat)
    (Int64.ofNat documents.length) (Int64.ofNat (i + 1)) size

section Listing

variable {σ : Type} {answer : σ → Statement → Reply × σ} {rows : List Row}
  {documents : List Document}

theorem value_fetchPage {r : PageRequest} {s : Selection} (h : Answers answer s rows)
    (hsize : 0 < r.size) (hoffset : 0 ≤ r.offset)
    (hread : rows.mapM Document.ofRow = .ok documents) (state : σ) :
    ((fetchPage r s).run answer state).value =
      .ok ((documents.drop r.offset.toInt.toNat).take r.size.toInt.toNat) := by
  rw [fetchPage, Dialogue.value_bind]
  obtain ⟨result, hreply, hrows⟩ :=
    h.window (Dialogue.run answer (Dialogue.tellAll (s.queryEvents (.page r.number r.size)))
      state).state r.size r.offset hsize hoffset
  refine Dialogue.value_allRows hreply ?_
  rw [hrows]
  exact mapM_window hread _ _

/-- Where nothing is fetched the window is empty; elsewhere the offset is exact. -/
theorem value_pageOf {r : PageRequest} {s : Selection} (h : Answers answer s rows)
    (hread : rows.mapM Document.ofRow = .ok documents) (hlength : documents.length < 2 ^ 63)
    {i : Nat} (hnumber : r.number.toInt = i + 1) (hsize : 0 < r.size.toInt) (state : σ) :
    ((pageOf r s (Int64.ofNat documents.length)).run answer state).value =
      .ok (pageAfter documents r.size i) := by
  have htotal : (Int64.ofNat documents.length).toInt = documents.length :=
    Int64.toInt_ofNat_of_lt hlength
  have hsizeNat : r.size.toInt = r.size.toInt.toNat := (Int.toNat_of_nonneg (by omega)).symm
  have hoffset : r.offset.toInt = min ((i * r.size.toInt.toNat : Nat) : Int) (2 ^ 63 - 1) := by
    rw [PageRequest.offset, toInt_pageOffset hsizeNat hnumber, Int.natCast_mul]
  have hnumberEq : r.number = Int64.ofNat (i + 1) := by
    have hlt := r.number.toInt_lt
    rw [← Int64.toInt_inj, hnumber, Int64.toInt_ofNat_of_lt (by omega)]
    rfl
  rw [pageOf, pageAfter, ← hnumberEq]
  split
  · rename_i hnothing
    simp only [Bool.or_eq_true, decide_eq_true_eq, ← Int64.toInt_inj, Int64.le_iff_toInt_le, htotal,
      hoffset, Int64.toInt_zero] at hnothing
    have hpast : documents.length ≤ i * r.size.toInt.toNat := by omega
    rw [List.drop_eq_nil_of_le hpast, List.take_nil]
    rfl
  · rename_i hsome
    simp only [Bool.or_eq_true, decide_eq_true_eq, ← Int64.toInt_inj, Int64.le_iff_toInt_le, htotal,
      hoffset, Int64.toInt_zero] at hsome
    have hexact : r.offset.toInt.toNat = i * r.size.toInt.toNat := by omega
    have hfetch := value_fetchPage h (r := r) (Int64.lt_iff_toInt_lt.mpr (by simpa using hsize))
      (Int64.le_iff_toInt_le.mpr (by rw [hoffset, Int64.toInt_zero]; omega)) hread state
    rw [Dialogue.value_bind, hfetch, hexact]
    rfl

/-- A page of a selection: its rows are counted, and then those of the page are fetched. -/
theorem value_counted {r : PageRequest} {s : Selection} (h : Answers answer s rows)
    (hread : rows.mapM Document.ofRow = .ok documents) (hlength : documents.length < 2 ^ 63)
    {i : Nat} (hnumber : r.number.toInt = i + 1) (hsize : 0 < r.size.toInt) (state : σ) :
    ((Dialogue.countRows s.countQuery >>= fun
        | .error e => pure (.error (.storage e))
        | .ok total => pageOf r s total).run answer state).value =
      .ok (pageAfter documents r.size i) := by
  have hrows : rows.length = documents.length := (mapM_eq_ok_iff.mp hread).length_eq
  obtain ⟨result, row, rest, hreply, hresult, hrow⟩ := h.count state
  rw [Dialogue.value_bind, Dialogue.value_countRows hreply hresult hrow, hrows]
  exact value_pageOf h hread hlength hnumber hsize _

/-- The selection depends on the search and the order of the request, not on the page. -/
theorem listed_bounded (request : PageRequest) (number : Int64) (bounds : PageBounds)
    (f : Filter) : listed (({ request with number } : PageRequest).bounded bounds) f =
      listed (request.bounded bounds) f := by
  simp only [listed, PageRequest.bounded_search, PageRequest.bounded_order]

/-- Listing the page after `i` others, in any state of the server: no error, and totals of all
documents. -/
theorem value_list {bounds : PageBounds} (hbounds : bounds.check = .ok ()) {request : PageRequest}
    {f : Filter} (h : Answers answer (listed (request.bounded bounds) f) rows)
    (hread : rows.mapM Document.ofRow = .ok documents) (hlength : documents.length < 2 ^ 63)
    {number : Int64} {i : Nat} (hnumber : number.toInt = i + 1) (state : σ) :
    ((list bounds { request with number } f).run answer state).value =
      .ok (pageAfter documents (PageRequest.boundedSize bounds request.size) i) := by
  have hbounded : (({ request with number } : PageRequest).bounded bounds).number = number :=
    PageRequest.bounded_number (r := { request with number }) (by simp only; omega) bounds
  have hsize : 0 < (({ request with number } : PageRequest).bounded bounds).size.toInt := by
    rw [PageRequest.bounded_size]
    exact PageRequest.boundedSize_pos hbounds request.size
  rw [← listed_bounded request number] at h
  rw [← hbounded] at hnumber
  have hvalue := value_counted h hread hlength hnumber hsize state
  rw [PageRequest.bounded_size] at hvalue
  exact hvalue

end Listing

end Document.Store

end PagedQuery
