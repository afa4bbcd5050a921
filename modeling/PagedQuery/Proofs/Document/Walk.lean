import PagedQuery.Proofs.Document.Table

/-! Walking through all pages, from the first one on for as long as there is a next one: the walk
ends, and its pages together hold every document once and in order. -/

namespace PagedQuery.Document.Store

section Windows

variable {α : Type}

/-- Windows of one size, one behind the other, are a front part of the list. -/
theorem flatMap_windows (xs : List α) (size count : Nat) :
    ((List.range count).flatMap fun i => (xs.drop (i * size)).take size) =
      xs.take (count * size) := by
  induction count with
  | zero => simp
  | succ n ih =>
    calc (List.range (n + 1)).flatMap (fun i => (xs.drop (i * size)).take size)
        = xs.take (n * size) ++ (xs.drop (n * size)).take size := by
          rw [List.range_succ, List.flatMap_append, ih, List.flatMap_singleton]
      _ = xs.take ((n + 1) * size) := by rw [← List.take_add, Nat.succ_mul]

end Windows

/-- A walk from a page on: that page is listed, and then the one after it as long as the answer
says that there is one. The pages are in order; the last state is that of the server at the end. -/
inductive Walk {σ : Type} (answer : σ → Statement → Reply × σ) (bounds : PageBounds)
    (request : PageRequest) (f : Filter) : Int64 → σ → List (Page Document) → σ → Prop where
  | last {number : Int64} {state : σ} {page : Page Document}
    (hvalue : ((list bounds { request with number } f).run answer state).value = .ok page)
    (hlast : page.hasNext = false) :
    Walk answer bounds request f number state [page]
      ((list bounds { request with number } f).run answer state).state
  | more {number : Int64} {state final : σ} {page : Page Document} {pages : List (Page Document)}
    (hvalue : ((list bounds { request with number } f).run answer state).value = .ok page)
    (hmore : page.hasNext = true)
    (hrest : Walk answer bounds request f (number + 1)
      ((list bounds { request with number } f).run answer state).state pages final) :
    Walk answer bounds request f number state (page :: pages) final

section Walks

variable {σ : Type} {answer : σ → Statement → Reply × σ} {bounds : PageBounds}
  {request : PageRequest} {f : Filter}

/-- No choice is left to a walk. -/
theorem Walk.unique {number : Int64} {state final other : σ} {pages others : List (Page Document)}
    (h : Walk answer bounds request f number state pages final)
    (h' : Walk answer bounds request f number state others other) :
    others = pages ∧ other = final := by
  induction h generalizing others with
  | last hvalue hlast =>
    cases h' with
    | last hvalue' _ =>
      rw [hvalue] at hvalue'
      obtain rfl := Except.ok.inj hvalue'
      exact ⟨rfl, rfl⟩
    | more hvalue' hmore _ =>
      rw [hvalue] at hvalue'
      obtain rfl := Except.ok.inj hvalue'
      rw [hlast] at hmore
      nomatch hmore
  | more hvalue hmore _ ih =>
    cases h' with
    | last hvalue' hlast =>
      rw [hvalue] at hvalue'
      obtain rfl := Except.ok.inj hvalue'
      rw [hlast] at hmore
      nomatch hmore
    | more hvalue' _ hrest' =>
      rw [hvalue] at hvalue'
      obtain rfl := Except.ok.inj hvalue'
      obtain ⟨rfl, rfl⟩ := ih hrest'
      exact ⟨rfl, rfl⟩

end Walks

section Pages

variable {documents : List Document} {size : Int64} {s : Nat} (hsize : size.toInt = s) (hs : 0 < s)
include hsize hs

/-- Every page but the last is full. -/
theorem length_pageAfter {i : Nat} (hi : i + 1 < pagesOf documents.length s) :
    ((pageAfter documents size i).rows.length : Int) = size.toInt := by
  have hleft := mul_lt_of_lt_pagesOf hs hi
  rw [Nat.add_mul, Nat.one_mul] at hleft
  show (((documents.drop (i * size.toInt.toNat)).take size.toInt.toNat).length : Int) = _
  rw [List.length_take, List.length_drop, hsize, Int.toNat_natCast]
  omega

theorem flatMap_pageAfter : ((List.range (pagesOf documents.length s)).map
    (pageAfter documents size)).flatMap Page.rows = documents := by
  have hall := List.take_of_length_le (l := documents) (le_pagesOf_mul hs)
  rw [List.flatMap_map]
  refine Eq.trans ?_ ((flatMap_windows documents s _).trans hall)
  show (List.range _).flatMap (fun i =>
    (documents.drop (i * size.toInt.toNat)).take size.toInt.toNat) = _
  rw [hsize, Int.toNat_natCast]

variable (hlength : documents.length < 2 ^ 63)
include hlength

theorem toInt_pageCount_documents :
    (pageCount (Int64.ofNat documents.length) size).toInt = pagesOf documents.length s :=
  toInt_pageCount hsize hs (Int64.toInt_ofNat_of_lt hlength)

theorem pagesOf_lt : (pagesOf documents.length s : Int) < 2 ^ 63 := by
  rw [← toInt_pageCount_documents hsize hs hlength]
  exact Int64.toInt_lt _

theorem hasNext_pageAfter {i : Nat} (hi : i < pagesOf documents.length s) :
    (pageAfter documents size i).hasNext = decide (i + 1 < pagesOf documents.length s) := by
  have hbound := pagesOf_lt hsize hs hlength
  have hnumber : (Int64.ofNat (i + 1)).toInt = (i + 1 : Nat) :=
    Int64.toInt_ofNat_of_lt (by omega)
  rw [Page.hasNext, decide_eq_decide]
  show Int64.ofNat (i + 1) < pageCount (Int64.ofNat documents.length) size ↔ _
  rw [Int64.lt_iff_toInt_lt, hnumber, toInt_pageCount_documents hsize hs hlength]
  omega

/-- A walk from the page after `i` others on takes in the pages that are left. -/
theorem walk_from {σ : Type} {answer : σ → Statement → Reply × σ} {bounds : PageBounds}
    {request : PageRequest} {f : Filter}
    (hlist : ∀ (i : Nat) (number : Int64), number.toInt = i + 1 → ∀ state,
      ((list bounds { request with number } f).run answer state).value =
        .ok (pageAfter documents size i))
    {left i : Nat} (hleft : i + (left + 1) = pagesOf documents.length s) {number : Int64}
    (hnumber : number.toInt = i + 1) (state : σ) :
    ∃ final, Walk answer bounds request f number state
      ((List.range' i (left + 1)).map (pageAfter documents size)) final := by
  have hnext := hasNext_pageAfter hsize hs hlength (i := i) (by omega)
  have hvalue := hlist i number hnumber state
  induction left generalizing i number state with
  | zero =>
    refine ⟨_, .last hvalue ?_⟩
    rw [hnext, decide_eq_false_iff_not]
    omega
  | succ left ih =>
    have hbound := pagesOf_lt hsize hs hlength
    have hnumber' : (number + 1).toInt = (i + 1 : Nat) + 1 := by
      rw [toInt_succ (by omega), hnumber]
      rfl
    have hleft' : i + 1 + (left + 1) = pagesOf documents.length s := by omega
    obtain ⟨final, hrest⟩ := ih hleft' hnumber' _
      (hasNext_pageAfter hsize hs hlength (by omega)) (hlist (i + 1) (number + 1) hnumber' _)
    refine ⟨final, ?_⟩
    rw [List.range'_succ, List.map_cons]
    refine .more hvalue ?_ hrest
    rw [hnext, decide_eq_true_iff]
    omega

end Pages

/-- Whatever the request and the filter, under checked bounds: against a server that holds a fixed
list of rows, all of them documents, the walk from the first page on ends after as many calls as
there are pages. Every page has the totals of the whole, every page but the last is full, and
together they are all documents in order. -/
theorem walk_pages {bounds : PageBounds} (hbounds : bounds.check = .ok ()) (request : PageRequest)
    (f : Filter) {σ : Type} {answer : σ → Statement → Reply × σ} {rows : List Row}
    (h : Answers answer (listed (request.bounded bounds) f) rows) (hlength : rows.length < 2 ^ 63)
    {documents : List Document} (hread : rows.mapM Document.ofRow = .ok documents) (state : σ) :
    let total := Int64.ofNat rows.length
    let size := (request.bounded bounds).size
    ∃ pages final,
      (∀ others other, Walk answer bounds request f 1 state others other ↔
        others = pages ∧ other = final) ∧
      pages.length = (pageCount total size).toInt ∧
      (∀ page ∈ pages, page.total = total ∧ page.size = size ∧
        page.pageCount = pageCount total size) ∧
      (∀ page ∈ pages.dropLast, page.rows.length = size.toInt) ∧
      pages.flatMap Page.rows = documents := by
  intro total size
  have hrows : rows.length = documents.length := (mapM_eq_ok_iff.mp hread).length_eq
  rw [hrows] at hlength
  have hpositive : 0 < size.toInt := PageRequest.boundedSize_pos hbounds request.size
  obtain ⟨s, hsize⟩ := Int.eq_ofNat_of_zero_le (Int.le_of_lt hpositive)
  have hs : 0 < s := by omega
  have hlist : ∀ (i : Nat) (number : Int64), number.toInt = i + 1 → ∀ state,
      ((list bounds { request with number } f).run answer state).value =
        .ok (pageAfter documents size i) :=
    fun i number hnumber state => value_list hbounds h hread hlength hnumber state
  have hpages : 0 < pagesOf documents.length s := Nat.succ_pos _
  have hcount : 0 + (pagesOf documents.length s - 1 + 1) = pagesOf documents.length s := by omega
  obtain ⟨final, hwalk⟩ := walk_from hsize hs hlength hlist hcount
    (show (1 : Int64).toInt = (0 : Nat) + 1 from rfl) state
  have htotal : total = Int64.ofNat documents.length := congrArg Int64.ofNat hrows
  have hlast : pagesOf documents.length s - 1 + 1 = pagesOf documents.length s := by omega
  rw [hlast, ← List.range_eq_range'] at hwalk
  refine ⟨_, final, fun others other => ⟨hwalk.unique, ?_⟩, ?_, ?_, ?_, ?_⟩
  · rintro ⟨rfl, rfl⟩
    exact hwalk
  · rw [List.length_map, List.length_range, htotal, toInt_pageCount_documents hsize hs hlength]
  · intro page hpage
    obtain ⟨i, -, rfl⟩ := List.mem_map.mp hpage
    rw [htotal]
    exact ⟨rfl, rfl, rfl⟩
  · intro page hpage
    rw [← List.map_dropLast, ← hlast, List.range_succ, List.dropLast_concat] at hpage
    obtain ⟨i, hi, rfl⟩ := List.mem_map.mp hpage
    have hi := List.mem_range.mp hi
    exact length_pageAfter hsize hs (by omega)
  · exact flatMap_pageAfter hsize hs

/-- Three documents in pages of two. -/
theorem walk_pages_three :
    let document : Nat → Document := fun n =>
      ⟨⟨BitVec.ofNat 128 n⟩, "Title", "draft", none, "text/plain", "c0ffee", none, none, ⟨0, 0⟩,
        ⟨n, 0⟩⟩
    let columns := ["id", "title", "status", "tag", "content_type", "checksum", "category_id",
      "category_name", "created_at", "updated_at"]
    let cells : Nat → List Cell := fun n =>
      [some (.uuid ⟨BitVec.ofNat 128 n⟩), some (.text "Title"), some (.text "draft"), none,
        some (.text "text/plain"), some (.text "c0ffee"), none, none, some (.timestamp ⟨0, 0⟩),
        some (.timestamp ⟨n, 0⟩)]
    ∃ pages final,
      Walk (tableAnswer columns [cells 1, cells 2, cells 3]) ⟨2, 2⟩ {} {} 1 0 pages final ∧
        pages.length = 2 ∧
        pages.flatMap Page.rows = [document 1, document 2, document 3] := by
  intro document columns cells
  have hserver := answers_table columns [cells 1, cells 2, cells 3]
    (windowAtEnd?_countQuery ⟨2, 2⟩)
  have hread : (ResultSet.ofRows columns [cells 1, cells 2, cells 3]).rows.mapM Document.ofRow =
      .ok [document 1, document 2, document 3] := rfl
  obtain ⟨pages, final, hwalk, hlength, -, -, hall⟩ :=
    walk_pages (by decide) {} {} hserver (by decide) hread 0
  have hcount : (pageCount (Int64.ofNat 3) (({} : PageRequest).bounded ⟨2, 2⟩).size).toInt = 2 := by
    decide
  exact ⟨pages, final, (hwalk pages final).mpr ⟨rfl, rfl⟩, Int.ofNat.inj (hlength.trans hcount),
    hall⟩

end PagedQuery.Document.Store
