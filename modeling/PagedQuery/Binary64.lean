/-!
Double-precision numbers, kept as their bits, so that each of the many not-a-numbers and both zeros
stay what they are. All arithmetic on them is exact arithmetic on naturals.
-/

namespace PagedQuery

/-- A double-precision number of IEEE 754, by its 64 bits. -/
structure Binary64 where
  bits : UInt64
deriving DecidableEq, Repr, Inhabited

namespace Binary64

def negative (x : Binary64) : Bool := x.bits.toNat.testBit 63

def exponentField (x : Binary64) : Nat := (x.bits.toNat >>> 52) % 2048

/-- One more than the greatest fraction: the leading bit of a significand, which is not kept. -/
def hiddenBit : Nat := 1 <<< 52

/-- The 52 bits below the exponent. -/
def fraction (x : Binary64) : Nat := x.bits.toNat % hiddenBit

def isNaN (x : Binary64) : Bool := x.exponentField = 2047 && x.fraction ≠ 0

def isInfinite (x : Binary64) : Bool := x.exponentField = 2047 && x.fraction = 0

def isZero (x : Binary64) : Bool := x.exponentField = 0 && x.fraction = 0

/-- The whole number whose product with a power of two is the magnitude of a finite number. -/
def significand (x : Binary64) : Nat :=
  if x.exponentField = 0 then x.fraction else hiddenBit + x.fraction

/-- The exponent of the power of two beside `significand`. -/
def scale (x : Binary64) : Int := max x.exponentField 1 - 1075

/-- Equality of numbers: a not-a-number equals nothing, and the two zeros are equal. -/
def numEq (x y : Binary64) : Bool :=
  !x.isNaN && !y.isNaN && (x.bits == y.bits || x.isZero && y.isZero)

def zero (negative : Bool) : Binary64 := ⟨if negative then 0x8000000000000000 else 0⟩

def infinity (negative : Bool) : Binary64 :=
  ⟨if negative then 0xFFF0000000000000 else 0x7FF0000000000000⟩

/-- The not-a-number that reading produces. -/
def nan : Binary64 := ⟨0x7FF8000000000000⟩

/-- The power of `base` with exponent `e`, or one when `e` is negative. -/
def powerPart (base : Nat) (e : Int) : Nat := Nat.pow base e.toNat

end Binary64

end PagedQuery
