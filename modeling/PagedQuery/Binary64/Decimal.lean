import PagedQuery.Binary64
import PagedQuery.Text.Digits

/-!
Reading decimals: the double-precision number nearest to a quotient or a decimal, ties to the even
significand, products and quotients, the grammar of decimal texts, and rounding back to whole
numbers.
-/

namespace PagedQuery.Binary64

open Text

/-- The quotient to the nearest whole number, a tie to the even one. -/
def roundHalfEven (num den : Nat) : Nat :=
  let q := num / den
  let r := num % den
  if 2 * r < den then q else if den < 2 * r then q + 1 else q + q % 2

/-- The greatest `b` with `2 ^ b ≤ num / den`, for positive `num` and `den`. -/
def log2Quotient (num den : Nat) : Int :=
  let b : Int := (num.log2 : Int) - den.log2
  if den * powerPart 2 b ≤ num * powerPart 2 (-b) then b else b - 1

/-- The magnitude bits of the number nearest to `num / den`: the significand is added to the
exponent field, so that a significand rounded up to the next power of two carries into it. -/
def magnitudeBits (num den : Nat) : Nat :=
  let q := max (log2Quotient num den - 52) (-1074)
  let significand := roundHalfEven (num * powerPart 2 (-q)) (den * powerPart 2 q)
  min ((q + 1074).toNat * hiddenBit + significand) (2047 * hiddenBit)

/-- The number nearest to `num / den`. -/
def ofQuotient (negative : Bool) (num den : Nat) : Binary64 :=
  if num = 0 then zero negative
  else ⟨UInt64.ofNat (magnitudeBits num den) ||| (zero negative).bits⟩

def quotient (x : Binary64) : Nat × Nat :=
  (x.significand * powerPart 2 x.scale, powerPart 2 (-x.scale))

/-- The product of the magnitudes of two finite numbers, rounded. -/
def times (x y : Binary64) : Binary64 :=
  ofQuotient false (x.quotient.1 * y.quotient.1) (x.quotient.2 * y.quotient.2)

/-- The quotient of the magnitudes of two finite numbers, rounded. -/
def dividedBy (x y : Binary64) : Binary64 :=
  ofQuotient false (x.quotient.1 * y.quotient.2) (x.quotient.2 * y.quotient.1)

def withSign (negative : Bool) (x : Binary64) : Binary64 :=
  ⟨x.bits % 0x8000000000000000 ||| (zero negative).bits⟩

/-- The number nearest to `digits * 10 ^ exponent`. Decimals beyond every finite number and below
half the least positive one are settled by their length alone. -/
def ofDecimal (negative : Bool) (digits : Nat) (exponent : Int) : Binary64 :=
  let top := exponent + (Nat.toDigits 10 digits).length
  if digits = 0 || top < -330 then zero negative
  else if 320 < top then infinity negative
  else ofQuotient negative (digits * powerPart 10 exponent) (powerPart 10 (-exponent))

/-- An exponent part: nothing, or `e` or `E` and a whole number with an optional sign. -/
def readExponent? : List Char → Option Int
  | [] => some 0
  | c :: cs =>
    if c = 'e' || c = 'E' then
      readInteger? cs
    else none

/-- A decimal with an optional sign, an optional point with digits on at least one side, and an
optional exponent; or an infinity or not-a-number in words, in any case. -/
def ofText? (cs : List Char) : Option Binary64 :=
  let (negative, body) := splitSign cs
  let word := String.ofList (body.map Char.toLower)
  if word = "inf" || word = "infinity" then some (infinity negative)
  else if word = "nan" then some (if negative then ⟨0xFFF8000000000000⟩ else nan)
  else
    let whole := body.takeWhile Char.isDigit
    let rest := body.dropWhile Char.isDigit
    let (places, tail) := match rest with
      | '.' :: more => (more.takeWhile Char.isDigit, more.dropWhile Char.isDigit)
      | _ => ([], rest)
    if whole.isEmpty && places.isEmpty then none
    else
      (readExponent? tail).map fun e =>
        ofDecimal negative (digitsValue (whole ++ places)) (e - places.length)

/-- The nearest natural number, a half away from zero; numbers below zero give zero, and the ones
past `limit`, infinity included, give `limit`. A not-a-number gives zero. -/
def toNatSaturating (limit : Nat) (x : Binary64) : Nat :=
  if x.isNaN || x.negative then 0
  else if x.isInfinite then limit
  else
    let num := 2 * x.significand * powerPart 2 x.scale
    let den := powerPart 2 (-x.scale)
    min limit ((num + den) / (2 * den))

end PagedQuery.Binary64
