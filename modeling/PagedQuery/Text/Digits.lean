/-! Digits and their values: runs of decimal ones, and single hexadecimal ones. -/

namespace PagedQuery.Text

def digitsValue (ds : List Char) : Nat := ds.foldl (fun n c => 10 * n + (c.toNat - 48)) 0

/-- A whole number of decimal digits, at least one, and nothing else. -/
def readDigits? (cs : List Char) : Option Nat :=
  if cs.isEmpty || !cs.all Char.isDigit then none else some (digitsValue cs)

def hexValue? (c : Char) : Option Nat :=
  if c.isDigit then some (c.toNat - 48)
  else if 'a' ≤ c ∧ c ≤ 'f' then some (c.toNat - 87)
  else if 'A' ≤ c ∧ c ≤ 'F' then some (c.toNat - 55)
  else none

/-- The value of a run of digits in a base up to 16. -/
def valueIn? (base : Nat) (ds : List Char) : Option Nat :=
  ds.foldlM (fun n c => ((hexValue? c).filter (· < base)).map fun d => base * n + d) 0

def hexNumber? (ds : List Char) : Option Nat := valueIn? 16 ds

/-- A number of `width` hexadecimal digits in front, and the rest. -/
def readHex? (width : Nat) (cs : List Char) : Option (Nat × List Char) :=
  if (cs.take width).length < width then none
  else (hexNumber? (cs.take width)).map fun n => (n, cs.drop width)

def character? (n : Nat) : Option Char :=
  if h : n.isValidChar then some (Char.ofNatAux n h) else none

/-- The character with a number of `width` hexadecimal digits, and the rest. -/
def readNumbered? (width : Nat) (cs : List Char) : Option (Char × List Char) := do
  let (n, rest) ← readHex? width cs
  some (← character? n, rest)

/-- A sign in front, if there is one, and the rest. -/
def splitSign : List Char → Bool × List Char
  | '-' :: cs => (true, cs)
  | '+' :: cs => (false, cs)
  | cs => (false, cs)

/-- A whole number with an optional sign in front. -/
def readInteger? (cs : List Char) : Option Int :=
  let (negative, ds) := splitSign cs
  (readDigits? ds).map fun n => if negative then -n else n

/-- The number fits 64 bits of which one is a sign. -/
def fitsInt64 (n : Int) : Bool := Int64.minValue.toInt ≤ n && n ≤ Int64.maxValue.toInt

/-- The digits of `n`, filled up with zeros to `width`. -/
def padded (width n : Nat) : String :=
  let ds := Nat.toDigits 10 n
  String.ofList (List.replicate (width - ds.length) '0' ++ ds)

end PagedQuery.Text
