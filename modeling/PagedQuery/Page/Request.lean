import PagedQuery.Page.Bounds
import PagedQuery.Page.Window
import PagedQuery.Sort

/-! Requests for a page: what a client asks for, brought into bounds before it is used. -/

namespace PagedQuery

/-- A page by number and size, an optional search text, and a sort order. Size 0 asks for the
default size. -/
structure PageRequest where
  number : Int64 := 1
  size : Int64 := 0
  search : Option String := none
  order : List SortKey := []
deriving DecidableEq, Repr, Inhabited

namespace PageRequest

/-- The request for a page of the given size, without search and sort order. -/
def of (number size : Int64) : PageRequest := { number, size }

def searching (r : PageRequest) (text : String) : PageRequest := { r with search := some text }

def sortedBy (r : PageRequest) (text : String) : PageRequest :=
  { r with order := SortKey.parseList text }

/-- The size of 32 bits as one of 64. -/
def sizeOf32 (n : UInt32) : Int64 := Int64.ofNat n.toNat

/-- A size below 1 becomes the default, and then one above the greatest becomes the greatest. -/
def boundedSize (b : PageBounds) (size : Int64) : Int64 :=
  let size := if size < 1 then sizeOf32 b.defaultSize else size
  if sizeOf32 b.maxSize < size then sizeOf32 b.maxSize else size

/-- A search text without blanks at its ends, unless nothing is left. -/
def cleanSearch (search : Option String) : Option String :=
  search.bind fun s => if (Text.trim s).isEmpty then none else some (Text.trim s)

/-- The request with number and size within bounds and a search that is absent or not blank. -/
def bounded (r : PageRequest) (b : PageBounds) : PageRequest :=
  { r with
    number := if r.number < 1 then 1 else r.number
    size := boundedSize b r.size
    search := cleanSearch r.search }

def offset (r : PageRequest) : Int64 := pageOffset r.number r.size

def window (r : PageRequest) : PageWindow := .ofPage r.number r.size

/-- A sort order in JSON: its text form, or null for none. -/
def decodeOrder : Json.Decoder (List SortKey) := fun j =>
  (Json.decodeOption Json.decodeString j).map fun s => (s.map SortKey.parseList).getD []

def record : Json.Record PageRequest where
  name := "PageRequest"
  fields :=
    [.of "page" .defaulted Json.decodeInt64 fun r v => { r with number := v },
      .of "page_size" .defaulted Json.decodeInt64 fun r v => { r with size := v },
      .of "search" .defaulted (Json.decodeOption Json.decodeString) fun r v =>
        { r with search := v },
      .of "sort" .defaulted decodeOrder fun r v => { r with order := v }]
  blank := {}

def decode : Json.Decoder PageRequest := record.decode

def toJson (r : PageRequest) : Json :=
  .object [("page", .int r.number.toInt), ("page_size", .int r.size.toInt),
    ("search", match r.search with | some s => .string s | none => .null),
    ("sort", .string (SortKey.listText r.order))]

end PageRequest

end PagedQuery
