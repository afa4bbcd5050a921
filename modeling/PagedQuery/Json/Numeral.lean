import PagedQuery.Json

/-!
Numerals of JSON: their grammar, and the number that each stands for. A whole numeral stands for
itself when 64 bits hold it. Any other is read in two steps that round: its digits as far as 64 bits
hold them, and then the power of ten that they are scaled by.
-/

namespace PagedQuery.Json

open Text

/-- The parts of a numeral: digits before the point, digits after it if there is one, and the
exponent if there is one. -/
structure Numeral where
  negative : Bool
  whole : List Char
  places : Option (List Char)
  exponent : Option Int
deriving DecidableEq, Repr

namespace Numeral

/-- An exponent part, or nothing. -/
def readExponent? : List Char → Option (Option Int)
  | [] => some none
  | c :: cs => if c = 'e' || c = 'E' then (readInteger? cs).map some else none

/-- The numeral in a text. No zero stands in front of other digits, and digits stand on both sides
of a point. -/
def read? (cs : List Char) : Option Numeral :=
  let negative := cs.head? = some '-'
  let body := if negative then cs.drop 1 else cs
  let whole := body.takeWhile Char.isDigit
  let rest := body.dropWhile Char.isDigit
  if whole.isEmpty || (1 < whole.length && whole.head? = some '0') then none
  else
    match rest with
    | '.' :: more =>
      let places := more.takeWhile Char.isDigit
      if places.isEmpty then none
      else (readExponent? (more.dropWhile Char.isDigit)).map (⟨negative, whole, some places, ·⟩)
    | rest => (readExponent? rest).map (⟨negative, whole, none, ·⟩)

/-- Puts digits behind a number up to the first that makes it more than 64 bits hold; also how many
there are. -/
def extend (n : Nat) : List Char → Nat × Nat
  | [] => (n, 0)
  | d :: ds =>
    let next := 10 * n + digitsValue [d]
    if next < UInt64.size then
      let (m, taken) := extend next ds
      (m, taken + 1)
    else (n, 0)

/-- The number divided by a power of ten, which is taken in parts that a number can be. -/
def shrunk (x : Binary64) (places : Nat) : Binary64 :=
  if x.isZero then x
  else if places ≤ 308 then x.dividedBy (.ofDecimal false 1 places)
  else shrunk (x.dividedBy (.ofDecimal false 1 308)) (places - 308)
termination_by places

/-- The number multiplied by a power of ten, unless it gets too large. -/
def grown? (x : Binary64) (places : Nat) : Option Binary64 :=
  if x.isZero then some x
  else if 308 < places then none
  else some (x.times (.ofDecimal false 1 places)) |>.filter (!·.isInfinite)

def float? (n : Numeral) : Option Binary64 :=
  let (m, taken) := extend 0 n.whole
  let (m, places) := extend m (n.places.getD [])
  let exponent := n.exponent.getD 0 + (n.whole.length - taken : Nat) - places
  let x := Binary64.ofQuotient false m 1
  (if 0 ≤ exponent then grown? x exponent.toNat else some (shrunk x exponent.natAbs)).map
    (·.withSign n.negative)

/-- The whole number that a numeral without a point and an exponent stands for: not minus zero, and
none that 64 bits do not hold. -/
def int? (n : Numeral) : Option Int :=
  let m := digitsValue n.whole
  if n.places.isSome || n.exponent.isSome then none
  else if n.negative then
    if m = 0 || (-m : Int) < Int64.minValue.toInt then none else some (-m)
  else if m < UInt64.size then some m
  else none

/-- The value of a numeral, unless it is too large for a number. -/
def value? (n : Numeral) : Option Json :=
  match n.int? with
  | some i => some (.int i)
  | none => n.float?.map .float

end Numeral

end PagedQuery.Json
