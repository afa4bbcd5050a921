import PagedQuery.Document.Store

/-! The operations of the store as values, so that what holds of all of them can be said at once. -/

namespace PagedQuery.Document.Store

/-- An operation with its input. -/
inductive Operation where
  | list (bounds : PageBounds) (request : PageRequest) (f : Filter)
  | fetch (id : Uuid)
  | fetchSame (checksum : String)
  | store (d : Draft)
  | setStatus (id : Uuid) (status : String)
  | remove (id : Uuid)

/-- What an operation gives when it succeeds. -/
inductive Outcome where
  | page (p : Page Document)
  | document (d : Document)
  | found (d : Option Document)
  | changed
deriving DecidableEq, Repr

namespace Operation

/-- The outcome of a dialogue as that of an operation. -/
def outcome (f : α → Outcome) (d : Dialogue (Except Error α)) : Dialogue (Except Error Outcome) := do
  return (← d).map f

def dialogue : Operation → Dialogue (Except Error Outcome)
  | list bounds request f => outcome .page (Store.list bounds request f)
  | fetch id => outcome .document (Store.fetch id)
  | fetchSame checksum => outcome .found (Store.fetchSame? checksum)
  | store d => outcome .document (Store.store d)
  | setStatus id status => outcome (fun _ => .changed) (Store.setStatus id status)
  | remove id => outcome (fun _ => .changed) (Store.remove id)

end Operation

end PagedQuery.Document.Store
