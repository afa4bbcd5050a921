import PagedQuery.Config.Setting

/-! Bare values of TOML: booleans, whole numbers of 64 bits, and floating numbers. -/

namespace PagedQuery.Toml

/-- Digits of which `isDigit` holds, with single underscores between them, without the
underscores. -/
def plainDigits? (isDigit : Char → Bool) (cs : List Char) : Option (List Char) :=
  let parts := Text.split '_' cs
  if parts.all fun p => !p.isEmpty && p.all isDigit then some parts.flatten else none

/-- Decimal digits without a zero in front of others. -/
def decimalDigits? (cs : List Char) : Option (List Char) :=
  (plainDigits? Char.isDigit cs).filter fun ds => ds.length = 1 || ds.head? ≠ some '0'

/-- The value of a digit of base 16, of which the smaller bases use the first ones. -/
def digitValue (c : Char) : Nat := (Text.hexValue? c).getD 16

def based? (base : Nat) (cs : List Char) : Option Int :=
  (plainDigits? (digitValue · < base) cs).map fun ds =>
    (ds.foldl (fun n c => base * n + digitValue c) 0 : Nat)

/-- A whole number: decimal with an optional sign, or hexadecimal, octal or binary. -/
def integer? : List Char → Option Int
  | '0' :: 'x' :: cs => based? 16 cs
  | '0' :: 'o' :: cs => based? 8 cs
  | '0' :: 'b' :: cs => based? 2 cs
  | cs =>
    let (negative, body) := Text.splitSign cs
    (decimalDigits? body).map fun ds =>
      if negative then -(Text.digitsValue ds : Int) else Text.digitsValue ds

/-- The part of a floating number before its exponent: digits, and digits after a point if there is
one. -/
def mantissa? (cs : List Char) : Option (List Char) :=
  match Text.split '.' cs with
  | [whole] => decimalDigits? whole
  | [whole, places] => do
    let ds ← decimalDigits? whole
    let ps ← plainDigits? Char.isDigit places
    some (ds ++ '.' :: ps)
  | _ => none

/-- An exponent: digits with an optional sign. -/
def exponent? (cs : List Char) : Option (List Char) :=
  let (negative, body) := Text.splitSign cs
  (plainDigits? Char.isDigit body).map fun ds => if negative then '-' :: ds else ds

/-- The characters before the first exponent mark and, if there is one, those after it. -/
def splitExponent (cs : List Char) : List Char × Option (List Char) :=
  let isMark (c : Char) : Bool := c = 'e' || c = 'E'
  match cs.dropWhile fun c => !isMark c with
  | [] => (cs, none)
  | _ :: after => (cs.takeWhile fun c => !isMark c, some after)

/-- A floating number in digits: with a point, an exponent or both. -/
def decimal? (sign body : List Char) : Option Binary64 :=
  match splitExponent body with
  | (m, none) => (mantissa? m).bind fun ds => Binary64.ofText? (sign ++ ds)
  | (m, some e) => do
    let ds ← mantissa? m
    let es ← exponent? e
    Binary64.ofText? (sign ++ ds ++ 'e' :: es)

/-- A floating number: digits that do not lie beyond every number, or `inf` or `nan`. -/
def float? (cs : List Char) : Option Binary64 :=
  let (negative, body) := Text.splitSign cs
  let sign := if negative then ['-'] else []
  if body = ['i', 'n', 'f'] ∨ body = ['n', 'a', 'n'] then Binary64.ofText? (sign ++ body)
  else (decimal? sign body).filter (· ≠ .infinity false)

def scalar? (cs : List Char) : Option Setting :=
  if cs = ['t', 'r', 'u', 'e'] then some (.bool true)
  else if cs = ['f', 'a', 'l', 's', 'e'] then some (.bool false)
  else
    match integer? cs with
    | some n => if Text.fitsInt64 n then some (.int n) else none
    | none => (float? cs).map .float

end PagedQuery.Toml
