import PagedQuery.Config.Yaml.Cursor
import PagedQuery.Text.Digits

/-!
What stands in front of nodes and documents in YAML: the names of anchors, tags, and directives.
-/

namespace PagedQuery.Yaml

def isAnchorChar (c : Char) : Bool := !isGap c && !isMark c && c ≠ '\ufeff'

def isAddressChar (c : Char) : Bool :=
  c.isAlphanum || "-#;/?:@&=+$,_.!~*'()[]%".toList.contains c

/-- A character of a tag behind its handle. -/
def isTagChar (c : Char) : Bool := isAddressChar c && !isMark c && c ≠ '!'

/-- The byte that a per cent sign and two hexadecimal digits in front stand for. -/
def readByte? (c : Cursor) : Option (Nat × Cursor) :=
  if c.rest.head? = some '%' then
    (Text.readHex? 2 (c.rest.drop 1)).map fun p => (p.1, c.past 3)
  else none

/-- The character whose number is a byte in front, or two bytes of which the first begins with the
bits 110 and the second with 10. -/
def readEscape? (c : Cursor) : Option (Char × Cursor) := do
  let (byte, c) ← readByte? c
  if byte < 0x80 then some (← Text.character? byte, c)
  else
    let (next, c) ← readByte? c
    if 0xc0 ≤ byte && byte < 0xe0 && 0x80 ≤ next && next < 0xc0 then
      some (← Text.character? (256 * byte + next), c)
    else none

/-- The characters in front that satisfy `p`, without escapes. `fuel` bounds their number. -/
def readAddress? (p : Char → Bool) : Nat → Cursor → Option (List Char × Cursor)
  | 0, _ => none
  | fuel + 1, c =>
    match c.rest with
    | [] => some ([], c)
    | d :: _ =>
      if !p d then some ([], c)
      else do
        let (d, c) ← if d = '%' then readEscape? c else some (d, c.past 1)
        (readAddress? p fuel c).map fun q => (d :: q.1, q.2)

/-- An exclamation mark in front, the word behind it, and one more exclamation mark if it is
there. -/
def readHandle? (c : Cursor) : Option (List Char × Cursor) :=
  if c.rest.head? ≠ some '!' then none
  else
    let word := (c.past 1).run isWordChar
    let c := c.past (word.length + 1)
    if c.rest.head? = some '!' then some ('!' :: word ++ ['!'], c.past 1) else some ('!' :: word, c)

def isHandle (cs : List Char) : Bool := 2 ≤ cs.length && cs.getLast? = some '!'

/-- A tag: the handle that a directive may declare, and what follows it. -/
structure Tag where
  handle : String
  suffix : String
deriving DecidableEq, Repr

/-- A tag in front. The tag of a single exclamation mark has no handle, and neither has one in angle
brackets. -/
def readTag? (c : Cursor) : Option (Tag × Cursor) :=
  if c.rest.take 2 = ['!', '<'] then do
    let (suffix, c) ← readAddress? isAddressChar (c.rest.length + 1) (c.past 2)
    if c.rest.head? = some '>' then some (⟨"", String.ofList suffix⟩, c.past 1) else none
  else do
    let (head, c) ← readHandle? c
    let (suffix, c) ← readAddress? isTagChar (c.rest.length + 1) c
    if isHandle head then
      if suffix.isEmpty then none else some (⟨String.ofList head, String.ofList suffix⟩, c)
    else
      let suffix := head.drop 1 ++ suffix
      some (if suffix.isEmpty then ⟨"", "!"⟩ else ⟨"!", String.ofList suffix⟩, c)

inductive Directive where
  | version
  /-- Tags with this handle begin with this prefix. -/
  | handle (handle pre : String)
  | other
deriving DecidableEq, Repr

/-- A number of at most nine digits in front is left behind. -/
def afterNumber? (c : Cursor) : Option Cursor :=
  let n := (c.run Char.isDigit).length
  if n = 0 || 9 < n then none else some (c.past n)

/-- The directive in front, behind its per cent sign. -/
def readDirective? (c : Cursor) : Option (Directive × Cursor) := do
  let name := c.run isWordChar
  let c := c.afterRun isWordChar
  if name.isEmpty || !c.isGapAt 0 then none
  else if name = "YAML".toList then
    let c ← afterNumber? c.afterBlanks
    if c.rest.head? = some '.' then (afterNumber? (c.past 1)).map fun c => (.version, c) else none
  else if name = "TAG".toList then
    let (handle, c) ← readHandle? c.afterBlanks
    let c := c.afterBlanks
    let pre ← c.rest.head?
    if (handle ≠ ['!'] && !isHandle handle) || (pre ≠ '!' && !isTagChar pre) then none
    else
      let (suffix, c) ← readAddress? isAddressChar (c.rest.length + 1) c
      if c.isGapAt 0 then some (.handle (String.ofList handle) (String.ofList suffix), c) else none
  else some (.other, c.afterRun (· ≠ '\n'))

end PagedQuery.Yaml
