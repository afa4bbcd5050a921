import PagedQuery.Json.Numeral

/-! Reading JSON values from text. -/

namespace PagedQuery.Json

inductive Token where
  /-- A bracket, a brace, a colon or a comma. -/
  | mark (c : Char)
  /-- A text in quotes, without them and with its escapes resolved. -/
  | quoted (s : String)
  /-- A run of other characters: a numeral or a name. -/
  | bare (cs : List Char)
deriving DecidableEq, Repr

def isBlank (c : Char) : Bool := c = ' ' || c = '\t' || c = '\n' || c = '\r'

def isMark (c : Char) : Bool :=
  c = '[' || c = ']' || c = '\x7b' || c = '\x7d' || c = ':' || c = ','

/-- The character that one number stands for, or two where the first announces a second. -/
def readNumbered? (cs : List Char) : Option (Char × List Char) := do
  let (high, cs) ← Text.readHex? 4 cs
  if 0xD800 ≤ high ∧ high ≤ 0xDBFF then
    match cs with
    | '\\' :: 'u' :: cs =>
      let (low, cs) ← Text.readHex? 4 cs
      if 0xDC00 ≤ low ∧ low ≤ 0xDFFF then
        some (Char.ofNat (0x10000 + 0x400 * (high - 0xD800) + (low - 0xDC00)), cs)
      else none
    | _ => none
  else (Text.character? high).map fun c => (c, cs)

def readEscape? : List Char → Option (Char × List Char)
  | 'b' :: cs => some ('\x08', cs)
  | 't' :: cs => some ('\t', cs)
  | 'n' :: cs => some ('\n', cs)
  | 'f' :: cs => some ('\x0c', cs)
  | 'r' :: cs => some ('\r', cs)
  | '"' :: cs => some ('"', cs)
  | '/' :: cs => some ('/', cs)
  | '\\' :: cs => some ('\\', cs)
  | 'u' :: cs => readNumbered? cs
  | _ => none

/-- A text up to its closing quote, behind what was read of it in reverse, and the rest; `fuel`
bounds the number of characters. -/
def readQuoted? : Nat → List Char → List Char → Option (String × List Char)
  | 0, _, _ | _, _, [] => none
  | fuel + 1, done, c :: cs =>
    if c = '"' then some (String.ofList done.reverse, cs)
    else if c = '\\' then (readEscape? cs).bind fun p => readQuoted? fuel (p.1 :: done) p.2
    else if c.toNat < 0x20 then none
    else readQuoted? fuel (c :: done) cs

/-- The tokens of a text, behind those read before in reverse; `fuel` bounds the number of
characters. -/
def tokensFrom? : Nat → List Token → List Char → Option (List Token)
  | _, done, [] => some done.reverse
  | 0, _, _ => none
  | fuel + 1, done, c :: cs =>
    if isBlank c then tokensFrom? fuel done cs
    else if isMark c then tokensFrom? fuel (.mark c :: done) cs
    else if c = '"' then
      (readQuoted? (fuel + 1) [] cs).bind fun p => tokensFrom? fuel (.quoted p.1 :: done) p.2
    else
      let isBare (d : Char) : Bool := !(isBlank d || isMark d || d = '"')
      tokensFrom? fuel (.bare (c :: cs.takeWhile isBare) :: done) (cs.dropWhile isBare)

def bareValue? (cs : List Char) : Option Json :=
  if cs = "null".toList then some .null
  else if cs = "true".toList then some (.bool true)
  else if cs = "false".toList then some (.bool false)
  else (Numeral.read? cs).bind (·.value?)

mutual
/-- A value in front, and the rest; `fuel` bounds the number of tokens, and `room` how many lists
and objects may lie one inside the other. -/
def value? : Nat → Nat → List Token → Option (Json × List Token)
  | 0, _, _ => none
  | _, _, .quoted s :: ts => some (.string s, ts)
  | _, _, .bare cs :: ts => (bareValue? cs).map fun j => (j, ts)
  | _, _ + 1, .mark '[' :: .mark ']' :: ts => some (.list [], ts)
  | fuel + 1, room + 1, .mark '[' :: ts => items? fuel room [] ts
  | _, _ + 1, .mark '\x7b' :: .mark '\x7d' :: ts => some (.object [], ts)
  | fuel + 1, room + 1, .mark '\x7b' :: ts => entries? fuel room [] ts
  | _, _, _ => none

/-- The list that ends with the values in front, behind those read before in reverse. -/
def items? : Nat → Nat → List Json → List Token → Option (Json × List Token)
  | 0, _, _, _ => none
  | fuel + 1, room, done, ts => do
    let (j, ts) ← value? fuel room ts
    match ts with
    | .mark ']' :: ts => some (.list (j :: done).reverse, ts)
    | .mark ',' :: ts => items? fuel room (j :: done) ts
    | _ => none

/-- The object that ends with the entries in front, after those read before. The last entry of a key
counts. -/
def entries? : Nat → Nat → List (String × Json) → List Token → Option (Json × List Token)
  | 0, _, _, _ => none
  | fuel + 1, room, es, .quoted key :: .mark ':' :: ts => do
    let (j, ts) ← value? fuel room ts
    match ts with
    | .mark '\x7d' :: ts => some (.object (insert key j es), ts)
    | .mark ',' :: ts => entries? fuel room (insert key j es) ts
    | _ => none
  | _, _, _, _ => none
end

/-- The value that a text spells, with at most `room` lists and objects one inside the other. -/
def parseWithin? (room : Nat) (s : String) : Option Json := do
  let cs := s.toList
  let ts ← tokensFrom? cs.length [] cs
  match ← value? (ts.length + 1) room ts with
  | (j, []) => some j
  | _ => none

/-- The value that a text spells. It is not nested deeper than 127 levels. -/
def parse? (s : String) : Option Json := parseWithin? 127 s

end PagedQuery.Json
