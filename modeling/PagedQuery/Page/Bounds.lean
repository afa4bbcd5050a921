import PagedQuery.Config.Error
import PagedQuery.Json.Decode

/-! The bounds of page sizes. -/

namespace PagedQuery

/-- The page size for requests that name none, and the greatest one allowed. -/
structure PageBounds where
  defaultSize : UInt32 := 20
  maxSize : UInt32 := 100
deriving DecidableEq, Repr, Inhabited

namespace PageBounds

/-- Both sizes are positive, and the default is at most the greatest. The first rule that fails is
the error. -/
def check (b : PageBounds) : Except ConfigError Unit :=
  if b.defaultSize = 0 then
    .error (.invalid "pagination.default_page_size" "0"
      "default page size must be greater than 0")
  else if b.maxSize = 0 then
    .error (.invalid "pagination.max_page_size" "0" "max page size must be greater than 0")
  else if b.maxSize < b.defaultSize then
    .error (.invalid "pagination.default_page_size" (toString b.defaultSize)
      s!"default page size must not exceed max page size ({b.maxSize})")
  else .ok ()

def record : Json.Record PageBounds where
  name := "PaginationConfig"
  fields :=
    [.of "default_page_size" .defaulted Json.decodeUInt32 fun b v => { b with defaultSize := v },
      .of "max_page_size" .defaulted Json.decodeUInt32 fun b v => { b with maxSize := v }]
  blank := {}

def decode : Json.Decoder PageBounds := record.decode

def toJson (b : PageBounds) : Json :=
  .object [("default_page_size", .int b.defaultSize.toNat), ("max_page_size", .int b.maxSize.toNat)]

end PageBounds

end PagedQuery
