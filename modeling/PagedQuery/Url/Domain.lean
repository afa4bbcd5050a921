import PagedQuery.Text.Mark
import PagedQuery.Url.Domain.Direction
import PagedQuery.Url.Domain.Joining
import PagedQuery.Url.Domain.Mapping
import PagedQuery.Url.Domain.Punycode

/-!
Names of hosts in any script: what they stand for, and which of them are none. A name is made of
labels between dots; each may be spelled out in letters, digits and hyphens behind `xn--`.
-/

namespace PagedQuery.Url

/-- All characters are of the first 128. -/
def isAscii (cs : List Char) : Bool := cs.all (·.toNat < 0x80)

/-- A character that the name of a host must not have where it is resolved. -/
def isForbiddenInName (c : Char) : Bool :=
  c.toNat ≤ 0x20 || c = '\x7f' || "%#/:<>?@[\\]^|".toList.contains c

/-- How many characters a label may have that is spelled out, and one that has to be. -/
def longestCode : Nat := 2000

def longestLabel : Nat := 1000

/-- A label with characters of other scripts that is not spelled out: it does not begin with a mark,
and its joiners are needed. -/
def isLabel (cs : List Char) : Bool := !cs.head?.any Text.isMark && Joining.fits [] cs

/-- What a label spells out behind `xn--`: a label with characters of other scripts, which stands
for itself. -/
def decodedLabel? (code : List Char) : Option (List Char) :=
  if longestCode < code.length then none
  else
    (Punycode.decode? code).filter fun cs =>
      !isAscii cs && isLabel cs &&
        cs.all (fun c => !(meaning? c).any (·.isEmpty)) && canonical? cs = some cs

/-- What a label of a name says in the script that it is meant for. -/
def readLabel? (label : List Char) : Option (List Char) :=
  match label with
  | 'x' :: 'n' :: '-' :: '-' :: code => decodedLabel? code
  | label =>
    if isAscii label || (isLabel label && label.length ≤ longestLabel) then some label else none

/-- What the name of a host stands for, in small letters and plain characters, if it is a name. -/
def domain? (cs : List Char) : Option (List Char) := do
  let name ← canonical? cs
  if name.any isForbiddenInName then none
  else
    let labels ← (Text.split '.' name).mapM readLabel?
    let directions := labels.map (·.map Direction.ofChar)
    if directions.any (·.any (·.isRightward)) && !directions.all Direction.mixes then none
    else some name

end PagedQuery.Url
