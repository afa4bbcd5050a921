import PagedQuery.Text.Digits

/-! Universally unique identifiers: 128 bits, read in four spellings and written in one. -/

namespace PagedQuery

structure Uuid where
  value : BitVec 128
deriving DecidableEq, Repr, Inhabited

namespace Uuid

/-- The identifier with these 32 hexadecimal digits. -/
def ofHex? (cs : List Char) : Option Uuid :=
  if cs.length = 32 then (Text.hexNumber? cs).map fun n => ⟨BitVec.ofNat 128 n⟩ else none

/-- The positions of the hyphens in the hyphenated spelling of 36 characters. -/
def hyphens : List Nat := [8, 13, 18, 23]

def ofHyphenated? (cs : List Char) : Option Uuid :=
  if cs.length = 36 ∧ hyphens.all (fun i => cs[i]? == some '-') then
    ofHex? (cs.zipIdx.filterMap fun p => if hyphens.contains p.2 then none else some p.1)
  else none

def insideBraces? (cs : List Char) : Option (List Char) :=
  if cs.head? = some '\x7b' ∧ cs.getLast? = some '\x7d' then some (cs.drop 1).dropLast else none

def urnMark : List Char := "urn:uuid:".toList

def afterUrn? (cs : List Char) : Option (List Char) :=
  if (cs.take urnMark.length).map Char.toLower = urnMark then some (cs.drop urnMark.length)
  else none

/-- The identifier that a text spells: 32 hexadecimal digits, or the hyphenated spelling, alone, in
braces or after `urn:uuid:`, letters in any case. -/
def parse? (s : String) : Option Uuid :=
  let cs := s.toList
  (ofHex? cs).or <| (ofHyphenated? cs).or <|
    ((insideBraces? cs).bind ofHyphenated?).or ((afterUrn? cs).bind ofHyphenated?)

/-- The digit of value `n` in lower case. -/
def hexDigit (n : Nat) : Char := Nat.digitChar (n % 16)

/-- The 32 hexadecimal digits of the identifier in lower case. -/
def toHex (u : Uuid) : List Char :=
  (List.range 32).map fun i => hexDigit (u.value.toNat >>> (4 * (31 - i)))

def text (u : Uuid) : String :=
  let h := u.toHex
  String.ofList (h.take 8 ++ '-' :: (h.drop 8).take 4 ++ '-' :: (h.drop 12).take 4 ++
    '-' :: (h.drop 16).take 4 ++ '-' :: h.drop 20)

end Uuid

end PagedQuery
