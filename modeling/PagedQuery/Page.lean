import PagedQuery.Page.Request

/-! Pages: the rows of one, and the totals that a client needs to page on. -/

namespace PagedQuery

/-- The number of pages that hold `total` rows: the quotient rounded up, and 1 where there are no
rows or no size. -/
def pageCount (total size : Int64) : Int64 :=
  if size < 1 || total ≤ 0 then 1
  else
    let full := total / size
    max (if total % size ≠ 0 then full + 1 else full) 1

/-- The rows of one page out of `total`, its number and size, and the number of all pages. -/
structure Page (α : Type) where
  rows : List α
  total : Int64
  number : Int64
  size : Int64
  pageCount : Int64
deriving DecidableEq, Repr, Inhabited

namespace Page

variable {α β : Type}

def of (rows : List α) (total number size : Int64) : Page α :=
  ⟨rows, total, number, size, PagedQuery.pageCount total size⟩

/-- The answer to a request: it echoes number and size. -/
def answering (rows : List α) (total : Int64) (r : PageRequest) : Page α :=
  of rows total r.number r.size

/-- A page of no rows at all. -/
def empty (number size : Int64) : Page α := of [] 0 number size

def hasNext (p : Page α) : Bool := p.number < p.pageCount

/-- Converts the rows and keeps the totals. -/
def map (f : α → β) (p : Page α) : Page β := { p with rows := p.rows.map f }

/-- The list of rows in JSON; null is no rows. -/
def decodeRows (element : Json.Decoder α) : Json.Decoder (List α) := fun j =>
  (Json.decodeOption (Json.decodeList element) j).map fun rows => rows.getD []

def record (element : Json.Decoder α) : Json.Record (Page α) where
  name := "PageResult"
  fields :=
    [.of "data" .defaulted (decodeRows element) fun p v => { p with rows := v },
      .of "total" .required Json.decodeInt64 fun p v => { p with total := v },
      .of "page" .required Json.decodeInt64 fun p v => { p with number := v },
      .of "page_size" .required Json.decodeInt64 fun p v => { p with size := v },
      .of "total_pages" .required Json.decodeInt64 fun p v => { p with pageCount := v }]
  blank := ⟨[], 0, 0, 0, 0⟩

def decode (element : Json.Decoder α) : Json.Decoder (Page α) := (record element).decode

def toJson (element : α → Json) (p : Page α) : Json :=
  .object [("data", .list (p.rows.map element)), ("page", .int p.number.toInt),
    ("page_size", .int p.size.toInt), ("total", .int p.total.toInt),
    ("total_pages", .int p.pageCount.toInt)]

end Page

end PagedQuery
