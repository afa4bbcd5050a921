import PagedQuery.Text.Digits
import PagedQuery.Text.Split

/-! Numeric addresses of hosts, of version 4 and version 6 of the Internet protocol. -/

namespace PagedQuery.Url

/-- A number from 0 to 255 without a zero in front. -/
def isOctet (cs : List Char) : Bool :=
  match Text.readDigits? cs with
  | some n => n ≤ 255 && (cs.length = 1 || cs.head? ≠ some '0')
  | none => false

/-- Four numbers from 0 to 255 between dots. -/
def isDottedQuad (cs : List Char) : Bool :=
  let parts := Text.split '.' cs
  parts.length = 4 && parts.all isOctet

def isGroup (cs : List Char) : Bool :=
  !cs.isEmpty && cs.length ≤ 4 && cs.all fun c => (Text.hexValue? c).isSome

def groupCount? (parts : List (List Char)) : Option Nat :=
  if parts.all isGroup then some parts.length else none

/-- How many groups a text has at the end of an address, where four numbers between dots may stand
for two. -/
def tailCount? (cs : List Char) : Option Nat :=
  let parts := Text.split ':' cs
  if isDottedQuad (parts.getLast?.getD []) then (groupCount? parts.dropLast).map (· + 2)
  else groupCount? parts

/-- The characters before and after the first pair of colons. -/
def splitGap? : List Char → Option (List Char × List Char)
  | ':' :: ':' :: cs => some ([], cs)
  | c :: cs => (splitGap? cs).map fun p => (c :: p.1, p.2)
  | [] => none

/-- Eight groups, of which a pair of colons leaves out one or more. -/
def isIpv6 (cs : List Char) : Bool :=
  match splitGap? cs with
  | none => tailCount? cs = some 8
  | some (front, back) =>
    let before := if front.isEmpty then some 0 else groupCount? (Text.split ':' front)
    let after := if back.isEmpty then some 0 else tailCount? back
    match before, after with
    | some m, some n => m + n ≤ 7
    | _, _ => false

def ipv4Number? (cs : List Char) : Option Nat :=
  let inBase (base : Nat) (ds : List Char) : Option Nat :=
    ds.foldlM (fun n c => ((Text.hexValue? c).filter (· < base)).map fun d => base * n + d) 0
  match cs with
  | '0' :: 'x' :: ds | '0' :: 'X' :: ds => inBase 16 ds
  | '0' :: d :: ds => inBase 8 (d :: ds)
  | [] => none
  | ds => inBase 10 ds

/-- The parts between the dots of a name, without an empty one at the end. -/
def hostParts (cs : List Char) : List (List Char) :=
  let parts := Text.split '.' cs
  if 1 < parts.length && parts.getLast? = some [] then parts.dropLast else parts

/-- A name that ends in a number is meant to be an address of numbers. -/
def endsInNumber (cs : List Char) : Bool :=
  let last := (hostParts cs).getLast?.getD []
  (!last.isEmpty && last.all Char.isDigit) || (ipv4Number? last).isSome

/-- At most four numbers, of which the last fills the bytes that the others leave, and each of the
others is one byte. -/
def isIpv4 (cs : List Char) : Bool :=
  match (hostParts cs).mapM ipv4Number? with
  | some numbers =>
    let others := numbers.dropLast
    numbers.length ≤ 4 && others.all (· ≤ 255) &&
      numbers.getLast?.getD 0 < 1 <<< (8 * (4 - others.length))
  | none => false

end PagedQuery.Url
