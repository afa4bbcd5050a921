import PagedQuery.Document.Store
import PagedQuery.Proofs.Page.Bounds
import PagedQuery.Proofs.Selection.Steps
import PagedQuery.Proofs.Storage.Replies

/-! What listing a page sends and what comes of it, whatever the request, the filter and the server:
the documents are counted, and those of the page are fetched when there are any. -/

namespace PagedQuery

namespace Dialogue

variable {σ : Type} {answer : σ → Statement → Reply × σ}

/-- Reporting sends nothing. -/
theorem run_tellAll (events : List LogEvent) (s : σ) :
    (tellAll events).run answer s = ⟨(), s, [], events⟩ := by
  induction events with
  | nil => rfl
  | cons e rest ih => rw [tellAll, run, ih]

end Dialogue

namespace Document.Store

section Runs

variable {σ : Type} {answer : σ → Statement → Reply × σ}

theorem run_fetchPage (r : PageRequest) (s : Selection) (state : σ) :
    let paged := (s.pageQuery r.number r.size).statement
    (fetchPage r s).run answer state = ⟨Reply.all ofRow (answer state paged).1,
      (answer state paged).2, [paged], s.orderEvents ++
        [Dialogue.queryEvent "query_many" (s.pageQuery r.number r.size)]⟩ := by
  rw [fetchPage, Dialogue.run_bind, Dialogue.run_tellAll, Dialogue.allRows_eq]
  rfl

variable {r : PageRequest} (hnumber : 1 ≤ r.number.toInt) (hsize : 0 < r.size.toInt)
  {total : Int64}
include hnumber hsize

/-- The offset may be cut, but no total is greater than where it is cut. -/
theorem nothing_left_iff : (total = 0 || total ≤ r.offset) = true ↔
    total.toInt ≤ (r.number.toInt - 1) * r.size.toInt := by
  have hlt := total.toInt_lt
  have hbefore : 0 ≤ (r.number.toInt - 1) * r.size.toInt := Int.mul_nonneg (by omega) (by omega)
  rw [Bool.or_eq_true, decide_eq_true_iff, decide_eq_true_iff, ← Int64.toInt_inj,
    Int64.le_iff_toInt_le, PageRequest.toInt_offset hnumber (by omega), Int64.toInt_zero]
  omega

/-- The page of a request that rows are left for is fetched. -/
theorem run_pageOf_of_lt (hleft : (r.number.toInt - 1) * r.size.toInt < total.toInt)
    {s : Selection} {paging : Statement} (hpaging : (s.pageQuery r.number r.size).statement = paging)
    (state : σ) : ((pageOf r s total).run answer state).sent = [paging] ∧
      ((pageOf r s total).run answer state).value =
        match Reply.all ofRow (answer state paging).1 with
        | .error e => .error (.storage e)
        | .ok rows => .ok (.answering rows total r) := by
  have hsome : ¬(total = 0 || total ≤ r.offset) = true := by
    rw [nothing_left_iff hnumber hsize]
    omega
  rw [pageOf, if_neg hsome, Dialogue.run_bind, run_fetchPage, hpaging]
  cases hrows : Reply.all ofRow (answer state paging).1 with
  | error e => exact ⟨rfl, rfl⟩
  | ok rows => exact ⟨rfl, rfl⟩

/-- The page of a request that no rows are left for is empty, and nothing is fetched. -/
theorem run_pageOf_of_le (hnone : total.toInt ≤ (r.number.toInt - 1) * r.size.toInt)
    (s : Selection) (state : σ) : (pageOf r s total).run answer state =
      ⟨.ok (.answering [] total r), state, [], [emptyPageEvent total r]⟩ := by
  rw [pageOf, if_pos ((nothing_left_iff hnumber hsize).mpr hnone)]
  rfl

end Runs

section Listed

variable {σ : Type} {answer : σ → Statement → Reply × σ} {bounds : PageBounds}
  {request : PageRequest} {f : Filter} {state : σ} {counting : Statement}
  (hcounting : (listed (request.bounded bounds) f).countQuery.statement = counting)
include hcounting

/-- Without a number of documents nothing else is sent. -/
theorem run_list_of_error {e : StorageError}
    (h : Reply.first (Row.single Cell.bigint) (answer state counting).1 = .error e) :
    (list bounds request f).run answer state = ⟨.error (.storage e), (answer state counting).2,
      [counting],
      [Dialogue.queryEvent "query_count" (listed (request.bounded bounds) f).countQuery]⟩ := by
  subst hcounting
  rw [list, Dialogue.countRows_eq, Dialogue.run_bind, Dialogue.run_exchange]
  simp only [h]
  rfl

/-- After the number of documents comes the page. -/
theorem run_list_of_ok {total : Int64}
    (h : Reply.first (Row.single Cell.bigint) (answer state counting).1 = .ok total) :
    let r := request.bounded bounds
    let page := (pageOf r (listed r f) total).run answer (answer state counting).2
    (list bounds request f).run answer state = ⟨page.value, page.state, counting :: page.sent,
      Dialogue.queryEvent "query_count" (listed r f).countQuery :: page.events⟩ := by
  subst hcounting
  rw [list, Dialogue.countRows_eq, Dialogue.run_bind, Dialogue.run_exchange]
  simp only [h]
  rfl

end Listed

/-! ### The texts of the two statements -/

theorem projection_listed (r : PageRequest) (f : Filter) : (listed r f).projection = projection :=
  Selection.projection_steps everything _

section Statements

variable {s : Selection} (h : s.projection = projection)
include h

theorem statement_countQuery : s.countQuery.statement =
    .query ("SELECT COUNT(*)" ++ (" FROM " ++ projection.fromClause ++ (s.whereClause 1).sql))
      ((s.whereClause 1).args.map Arg.bound) := by
  have hfrom : "SELECT COUNT(*) FROM " = "SELECT COUNT(*)" ++ " FROM " := by decide
  have hsql : s.countQuery.sql =
      "SELECT COUNT(*) FROM " ++ s.projection.fromClause ++ (s.whereClause 1).sql := rfl
  rw [Query.statement, hsql, h, hfrom]
  simp only [String.append_assoc]
  rfl

theorem statement_pageQuery {r : PageRequest}
    (hexact : r.offset.toInt = (r.number.toInt - 1) * r.size.toInt) :
    (s.pageQuery r.number r.size).statement =
      .query ("SELECT " ++ projection.selectList ++
        (" FROM " ++ projection.fromClause ++ (s.whereClause 1).sql) ++ s.orderClause ++
          " LIMIT " ++ toString r.size.toInt ++ " OFFSET " ++
            toString ((r.number.toInt - 1) * r.size.toInt))
        ((s.whereClause 1).args.map Arg.bound) := by
  have hwindow : (PageWindow.ofPage r.number r.size).sql =
      " LIMIT " ++ toString r.size.toInt ++ " OFFSET " ++ toString r.offset.toInt := rfl
  rw [Query.statement, Selection.pageQuery, Selection.rowsQuery, h, hwindow, hexact]
  simp only [String.append_assoc]

end Statements

/-! ### The exchange -/

/-- Whatever the request, the filter and the server, under checked bounds. The statement that counts
comes first. When its answer is not a number, it is the only one, and the outcome is an error.
Otherwise a second statement follows exactly when there are documents and the page is one of
their pages. Both have the same arguments and the same text from the keyword FROM to the end of
the WHERE clause, and the second one ends with the window of the page, whose offset is exact and
before the last document. Then the outcome is the page of all rows of the second answer, or an error
when one of them is no document; without a second statement it is a page without rows. -/
theorem list_counts_then_fetches {bounds : PageBounds} (hbounds : bounds.check = .ok ())
    (request : PageRequest) (f : Filter) {σ : Type} (answer : σ → Statement → Reply × σ)
    (state : σ) :
    let r := request.bounded bounds
    let s := listed r f
    let shared := " FROM " ++ projection.fromClause ++ (s.whereClause 1).sql
    let args := (s.whereClause 1).args.map Arg.bound
    let skipped := (r.number.toInt - 1) * r.size.toInt
    let counting : Statement := .query ("SELECT COUNT(*)" ++ shared) args
    let paging : Statement := .query ("SELECT " ++ projection.selectList ++ shared ++
      s.orderClause ++ " LIMIT " ++ toString r.size.toInt ++ " OFFSET " ++ toString skipped) args
    let counted := answer state counting
    let total? := Reply.first (Row.single Cell.bigint) counted.1
    let rows? := Reply.all ofRow (answer counted.2 paging).1
    let run := (list bounds request f).run answer state
    1 ≤ r.number.toInt ∧ 1 ≤ r.size.toInt ∧ r.size.toInt ≤ bounds.maxSize.toNat ∧
    (∀ e, total? = .error e → run.sent = [counting] ∧ run.value = .error (.storage e)) ∧
    ∀ total, total? = .ok total →
      let pages := max 1 ((total.toInt + r.size.toInt - 1) / r.size.toInt)
      (pageCount total r.size).toInt = pages ∧
      (0 < total.toInt ∧ r.number.toInt ≤ pages →
        run.sent = [counting, paging] ∧ skipped < total.toInt ∧
        (∀ e, rows? = .error e → run.value = .error (.storage e)) ∧
        ∀ rows, rows? = .ok rows →
          run.value = .ok ⟨rows, total, r.number, r.size, pageCount total r.size⟩) ∧
      (¬(0 < total.toInt ∧ r.number.toInt ≤ pages) → run.sent = [counting] ∧
        run.value = .ok ⟨[], total, r.number, r.size, pageCount total r.size⟩) := by
  intro r s shared args skipped counting paging counted total? rows? run
  have hnumber : 1 ≤ r.number.toInt := PageRequest.one_le_bounded_number request bounds
  have hsize : 0 < r.size.toInt := PageRequest.boundedSize_pos hbounds request.size
  have hcounting : s.countQuery.statement = counting :=
    statement_countQuery (projection_listed r f)
  refine ⟨hnumber, hsize, PageRequest.boundedSize_le bounds request.size, ?_, ?_⟩
  · intro e herror
    have hrun : run = _ := run_list_of_error hcounting herror
    rw [hrun]
    exact ⟨rfl, rfl⟩
  · intro total htotal pages
    have hpages : (pageCount total r.size).toInt = pages := toInt_pageCount_eq_max hsize
    have hrun : run = _ := run_list_of_ok hcounting htotal
    refine ⟨hpages, ?_, ?_⟩
    · intro hsome
      have hleft : skipped < total.toInt := (le_pages_iff hsize hnumber).mp hsome
      have hpaging : (s.pageQuery r.number r.size).statement = paging :=
        statement_pageQuery (projection_listed r f)
          (PageRequest.toInt_offset_of_lt hnumber (Int.le_of_lt hsize) hleft)
      obtain ⟨hsent, hvalue⟩ := run_pageOf_of_lt hnumber hsize hleft hpaging counted.2
      rw [hrun]
      refine ⟨congrArg _ hsent, hleft, ?_, ?_⟩
      · intro e herror
        simp only [rows?] at herror
        rw [herror] at hvalue
        exact hvalue
      · intro rows hrows
        simp only [rows?] at hrows
        rw [hrows] at hvalue
        exact hvalue
    · intro hsome
      have hnone : total.toInt ≤ skipped := by
        rw [le_pages_iff hsize hnumber] at hsome
        exact Int.not_lt.mp hsome
      rw [hrun, run_pageOf_of_le hnumber hsize hnone s counted.2]
      exact ⟨rfl, rfl⟩

/-- The second page of three documents, two on a page; and a page behind the last one. -/
theorem list_counts_then_fetches_second :
    let document : Document :=
      ⟨⟨3⟩, "Title", "draft", none, "text/plain", "c0ffee", none, none, ⟨0, 0⟩, ⟨0, 0⟩⟩
    let three : Reply := .ok (.ofRows ["count"] [[some (.bigint 3)]])
    let row : Reply := .ok (.ofRows ["id", "title", "status", "tag", "content_type", "checksum",
      "category_id", "category_name", "created_at", "updated_at"] [[some (.uuid ⟨3⟩),
        some (.text "Title"), some (.text "draft"), none, some (.text "text/plain"),
        some (.text "c0ffee"), none, none, some (.timestamp ⟨0, 0⟩), some (.timestamp ⟨0, 0⟩)]])
    let order := (listed (({ number := 2 } : PageRequest).bounded ⟨2, 2⟩) {}).orderClause
    let second := (list ⟨2, 2⟩ { number := 2 } {}).run Script.answer ⟨[three, row], []⟩
    let behind := (list ⟨2, 2⟩ { number := 3 } {}).run Script.answer ⟨[three], []⟩
    second.sent = [.query ("SELECT COUNT(*)" ++ (" FROM " ++ projection.fromClause ++ "")) [],
      .query ("SELECT " ++ projection.selectList ++ (" FROM " ++ projection.fromClause ++ "") ++
        order ++ " LIMIT " ++ "2" ++ " OFFSET " ++ "2") []] ∧
      second.value = .ok ⟨[document], 3, 2, 2, 2⟩ ∧
      behind.sent = [.query ("SELECT COUNT(*)" ++ (" FROM " ++ projection.fromClause ++ "")) []] ∧
      behind.value = .ok ⟨[], 3, 3, 2, 2⟩ := by
  intro document three row order second behind
  have hbounds : PageBounds.check ⟨2, 2⟩ = .ok () := by decide
  obtain ⟨-, -, -, -, hcounted⟩ :=
    list_counts_then_fetches hbounds { number := 2 } {} Script.answer ⟨[three, row], []⟩
  obtain ⟨-, -, -, -, hcounted'⟩ :=
    list_counts_then_fetches hbounds { number := 3 } {} Script.answer ⟨[three], []⟩
  obtain ⟨-, hfetched, -⟩ := hcounted 3 rfl
  obtain ⟨-, -, hempty⟩ := hcounted' 3 rfl
  obtain ⟨hsent, -, -, hvalue⟩ := hfetched (by decide)
  obtain ⟨hsent', hvalue'⟩ := hempty (by decide)
  exact ⟨hsent, hvalue [document] rfl, hsent', hvalue'⟩

end Document.Store

end PagedQuery
