/-! Patterns of LIKE: escaping a text so that it matches only itself. -/

namespace PagedQuery.Like

def isSpecial (c : Char) : Bool := c = '\\' || c = '%' || c = '_'

/-- One character as a pattern that matches it alone. -/
def escapeChar (c : Char) : List Char := if isSpecial c then ['\\', c] else [c]

def escapeChars (cs : List Char) : List Char := cs.flatMap escapeChar

/-- The text as a pattern that matches it alone. -/
def escape (s : String) : String := String.ofList (escapeChars s.toList)

/-- The pattern of the texts that hold `needle`. -/
def containing (needle : String) : String := "%" ++ escape needle ++ "%"

@[simp] theorem escapeChars_nil : escapeChars [] = [] := rfl

@[simp] theorem escapeChars_cons (c : Char) (cs : List Char) :
    escapeChars (c :: cs) = escapeChar c ++ escapeChars cs := rfl

end PagedQuery.Like
