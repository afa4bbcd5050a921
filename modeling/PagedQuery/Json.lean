import PagedQuery.Binary64.Decimal

/-!
JSON values. Numbers are whole or floating, and the keys of an object ascend, each standing there
once.
-/

namespace PagedQuery

inductive Json where
  | null
  | bool (b : Bool)
  | int (n : Int)
  | float (x : Binary64)
  | string (s : String)
  | list (items : List Json)
  | object (entries : List (String × Json))
deriving Inhabited, Repr

namespace Json

mutual
/-- Equality of values; floating numbers are compared as numbers. -/
def beq : Json → Json → Bool
  | null, null => true
  | bool a, bool b => a == b
  | int a, int b => a == b
  | float a, float b => a.numEq b
  | string a, string b => a == b
  | list a, list b => beqItems a b
  | object a, object b => beqEntries a b
  | _, _ => false

def beqItems : List Json → List Json → Bool
  | [], [] => true
  | a :: as, b :: bs => beq a b && beqItems as bs
  | _, _ => false

def beqEntries : List (String × Json) → List (String × Json) → Bool
  | [], [] => true
  | (k, a) :: as, (l, b) :: bs => k == l && beq a b && beqEntries as bs
  | _, _ => false
end

instance : BEq Json := ⟨beq⟩

def find? (key : String) (entries : List (String × Json)) : Option Json :=
  (entries.find? fun e => e.1 == key).map (·.2)

/-- The entries with `value` under `key`: in place of the present one, or where the order puts
it. -/
def insert (key : String) (value : Json) : List (String × Json) → List (String × Json)
  | [] => [(key, value)]
  | e :: es =>
    if key = e.1 then (key, value) :: es
    else if key < e.1 then (key, value) :: e :: es
    else e :: insert key value es

end Json

end PagedQuery
