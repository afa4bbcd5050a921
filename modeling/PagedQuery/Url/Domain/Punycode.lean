import PagedQuery.Text.Split

/-!
Labels of names in letters, digits and hyphens: what they spell beyond that. The characters that are
written as they are stand in front of the last hyphen; behind it, numbers of digits to varying bases
tell which other characters go where, in ascending order of code points (RFC 3492).
-/

namespace PagedQuery.Url.Punycode

/-- The value of a digit: letters, then decimal digits. -/
def digitValue? (c : Char) : Option Nat :=
  if 'a' ≤ c ∧ c ≤ 'z' then some (c.toNat - 97)
  else if c.isDigit then some (c.toNat - 48 + 26)
  else none

/-- The least digit value that does not end a number, at a place `k` of it. -/
def threshold (bias k : Nat) : Nat := min 26 (max 1 (k - bias))

/-- How often a difference is divided before it is small, as a multiple of 36, and what is left of
it; `fuel` bounds the number of divisions. -/
def reduced : Nat → Nat → Nat → Nat × Nat
  | 0, k, delta => (k, delta)
  | fuel + 1, k, delta => if 455 < delta then reduced fuel (k + 36) (delta / 35) else (k, delta)

/-- The bias for the number behind a difference of `delta`, once there are `count` characters. -/
def adapted (delta count : Nat) (isFirst : Bool) : Nat :=
  let delta := if isFirst then delta / 700 else delta / 2
  let (k, delta) := reduced delta 0 (delta + delta / count)
  k + 36 * delta / (delta + 38)

/-- A number in front added to `sum`, and the rest; `weight` is the value of its place `k`. Numbers
stay below 32 bits. -/
def readNumber? (bias : Nat) (sum weight k : Nat) : List Char → Option (Nat × List Char)
  | [] => none
  | c :: cs => do
    let digit ← digitValue? c
    let sum := sum + digit * weight
    let t := threshold bias k
    if UInt32.size ≤ sum then none
    else if digit < t then some (sum, cs)
    else if UInt32.size ≤ weight * (36 - t) then none
    else readNumber? bias sum (weight * (36 - t)) (k + 36) cs

/-- The characters with those that numbers put between them; `code` and `place` are where the last
one was put. `fuel` bounds the number of characters. -/
def insertAll? : Nat → (bias code place : Nat) → List Char → List Char → Option (List Char)
  | _, _, _, _, done, [] => some done
  | 0, _, _, _, _, _ => none
  | fuel + 1, bias, code, place, done, cs => do
    let (sum, rest) ← readNumber? bias place 1 36 cs
    let count := done.length + 1
    let code := code + sum / count
    let position := sum % count
    if h : code.isValidChar then
      let done := done.take position ++ Char.ofNatAux code h :: done.drop position
      insertAll? fuel (adapted (sum - place) count (place = 0)) code (position + 1) done rest
    else none

/-- The characters in front of the last hyphen and behind it. A hyphen right in front divides
nothing. -/
def splitBasic (cs : List Char) : List Char × List Char :=
  let coded := (cs.reverse.takeWhile (· ≠ '-')).reverse
  let basic := cs.take (cs.length - coded.length - 1)
  if basic.isEmpty then ([], cs) else (basic, coded)

def decode? (cs : List Char) : Option (List Char) :=
  let (basic, coded) := splitBasic cs
  if basic.all (·.toNat < 0x80) then insertAll? coded.length 72 128 0 basic coded else none

end PagedQuery.Url.Punycode
