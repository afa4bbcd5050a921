import PagedQuery.Text.Digits
import PagedQuery.Text.Split

/-!
Sets and properties of characters as ranges of code points, and their tables in text form: words
between spaces, each a hexadecimal number or two with a hyphen between them.
-/

namespace PagedQuery.Text

def inRanges (ranges : List (Nat × Nat)) (c : Char) : Bool :=
  ranges.any fun r => r.1 ≤ c.toNat && c.toNat ≤ r.2

def words (s : String) : List (List Char) := (split ' ' s.toList).filter (!·.isEmpty)

def readRange? (word : List Char) : Option (Nat × Nat) :=
  match (split '-' word).mapM hexNumber? with
  | some [n] => some (n, n)
  | some [low, high] => some (low, high)
  | _ => none

def readRanges (lines : List String) : List (Nat × Nat) :=
  lines.flatMap fun line => (words line).filterMap readRange?

/-- A property with the ranges of code points on which it has each of its values. -/
abbrev PropertyTable (α : Type) := List (α × List (Nat × Nat))

namespace PropertyTable

def ofRows {α : Type} (rows : List (α × String)) : PropertyTable α :=
  rows.map fun row => (row.1, readRanges [row.2])

def get? {α : Type} (table : PropertyTable α) (c : Char) : Option α :=
  (table.find? fun row => inRanges row.2 c).map (·.1)

end PropertyTable

end PagedQuery.Text
