import PagedQuery.Binary64

/-!
The shortest decimal text of a double-precision number: the fewest digits that read back as the
same number, and of those the nearest. There are two notations: plain text, which never has an
exponent, and the one of JSON, which has one for very large and very small numbers.
-/

namespace PagedQuery.Binary64

/-- The decimal `digits * 10 ^ exponent`. -/
structure Decimal where
  digits : Nat
  exponent : Int
deriving DecidableEq, Repr

/-- Which of two decimals to take when both are as near to a number. -/
inductive Tie where
  | upper
  | even
deriving DecidableEq, Repr

/-- The point of the grid of step `10 ^ k` that reads back as `significand * 2 ^ scale`, if there is
one: of two such points the nearer.

In units of `2 ^ (scale - 2)` the number is `4 * significand`, and the numbers that read back as it
lie between `low` and `high`, ends included when the significand is even. -/
def gridPoint? (tie : Tie) (significand : Nat) (scale : Int) (narrowBelow : Bool) (k : Int) :
    Option Nat :=
  let unit := scale - 2
  let a := powerPart 10 k * powerPart 2 (-unit)
  let b := powerPart 10 (-k) * powerPart 2 unit
  let mid := 4 * significand * b
  let low := (4 * significand - if narrowBelow then 1 else 2) * b
  let high := (4 * significand + 2) * b
  let inside (d : Nat) : Bool :=
    if significand % 2 = 0 then low ≤ d * a && d * a ≤ high else low < d * a && d * a < high
  let d := mid / a
  let below := mid - d * a
  let above := (d + 1) * a - mid
  let upper := above < below || above = below && (tie = .upper || d % 2 = 1)
  match inside d, inside (d + 1) with
  | true, true => some (if upper then d + 1 else d)
  | true, false => some d
  | false, true => some (d + 1)
  | false, false => none

/-- The shortest decimal of a finite number other than zero, without its sign: the coarsest grid
that holds a point reading back as the number. -/
def shortest (tie : Tie) (x : Binary64) : Decimal :=
  let narrowBelow := x.fraction = 0 && 1 < x.exponentField
  let grids := (List.range 660).map fun (i : Nat) => (310 : Int) - i
  match grids.findSome? fun k =>
      (gridPoint? tie x.significand x.scale narrowBelow k).map fun d => (⟨d, k⟩ : Decimal) with
  | some d => d
  | none => ⟨0, 0⟩

/-- A decimal without an exponent: zeros fill the places up to the point. -/
def Decimal.positional (d : Decimal) : String :=
  let ds := Nat.toDigits 10 d.digits
  if 0 ≤ d.exponent then String.ofList (ds ++ List.replicate d.exponent.toNat '0')
  else
    let places := (-d.exponent).toNat
    let padded := List.replicate (places + 1 - ds.length) '0' ++ ds
    let whole := padded.length - places
    String.ofList (padded.take whole ++ ['.'] ++ padded.drop whole)

/-- A decimal with one digit in front of the point and an exponent with its sign. -/
def Decimal.scientific (d : Decimal) : String :=
  let ds := Nat.toDigits 10 d.digits
  let places := if ds.length = 1 then [] else '.' :: ds.drop 1
  let exponent := d.exponent + (ds.length - 1 : Nat)
  String.ofList (ds.take 1 ++ places ++ ['e', if exponent < 0 then '-' else '+']) ++
    toString exponent.natAbs

/-- The text of a number: `5`, `-0`, `0.1`, `inf`, `NaN`. Ties go to the upper decimal. -/
def text (x : Binary64) : String :=
  if x.isNaN then "NaN"
  else
    let sign := if x.negative then "-" else ""
    if x.isInfinite then sign ++ "inf"
    else if x.isZero then sign ++ "0"
    else sign ++ (x.shortest .upper).positional

/-- A finite number as JSON writes it: `5.0`, `-0.0`, `0.1`, `1e+16`, `5e-7`. A leading digit from
the fifth place after the point to the sixteenth in front of it needs no exponent. Ties go to the
even decimal. -/
def jsonText (x : Binary64) : String :=
  let sign := if x.negative then "-" else ""
  if x.isZero then sign ++ "0.0"
  else
    let d := x.shortest .even
    let top := d.exponent + ((Nat.toDigits 10 d.digits).length - 1 : Nat)
    if top < -5 || 15 < top then sign ++ d.scientific
    else if 0 ≤ d.exponent then sign ++ d.positional ++ ".0"
    else sign ++ d.positional

end PagedQuery.Binary64
