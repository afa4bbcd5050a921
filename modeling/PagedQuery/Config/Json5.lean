import PagedQuery.Config.Setting
import PagedQuery.Text.Blank
import PagedQuery.Text.Identifier

/-!
Documents in JSON5: JSON with comments, with names and single-quoted texts as keys, with more ways
to write numbers, and with a comma behind the last item.
-/

namespace PagedQuery.Json5

def isLineEnd (c : Char) : Bool := ['\n', '\r', '\u2028', '\u2029'].contains c

def isSpace (c : Char) : Bool := (Text.isBlank c && c ≠ '\u0085') || c = '\uFEFF'

/-- What follows a comment, whose beginning has been read, behind its end mark. -/
def afterBlock? : List Char → Option (List Char)
  | '*' :: '/' :: cs => some cs
  | _ :: cs => afterBlock? cs
  | [] => none

/-- The characters without blanks and comments in front; `fuel` bounds the number of comments. -/
def skipFrom? : Nat → List Char → Option (List Char)
  | 0, _ => none
  | fuel + 1, cs =>
    match cs.dropWhile isSpace with
    | '/' :: '/' :: rest => skipFrom? fuel (rest.dropWhile (!isLineEnd ·))
    | '/' :: '*' :: rest => (afterBlock? rest).bind (skipFrom? fuel)
    | rest => some rest

/-- The characters without blanks and comments in front. -/
def skip? (cs : List Char) : Option (List Char) := skipFrom? (cs.length + 1) cs

/-- The numbers that an escape stands for, by the letter behind its backslash, and the rest. An
escaped line end stands for nothing, and characters without a meaning for themselves. -/
def escaped? : List Char → Option (List Nat × List Char)
  | [] => none
  | 'x' :: cs => (Text.readHex? 2 cs).map fun p => ([p.1], p.2)
  | 'u' :: cs => (Text.readHex? 4 cs).map fun p => ([p.1], p.2)
  | '\r' :: '\n' :: cs => some ([], cs)
  | c :: cs =>
    let escapes := [('b', 0x08), ('f', 0x0C), ('n', 0x0A), ('r', 0x0D), ('t', 0x09), ('v', 0x0B),
      ('0', 0x00)]
    match escapes.find? fun e => e.1 = c with
    | some e => some ([e.2], cs)
    | none =>
      if isLineEnd c then some ([], cs) else if c.isDigit then none else some ([c.toNat], cs)

/-- A text up to its closing quote as numbers, and the rest; `fuel` bounds the number of
characters. -/
def readQuoted? (quote : Char) : Nat → List Char → Option (List Nat × List Char)
  | 0, _ | _, [] => none
  | fuel + 1, c :: cs =>
    if c = quote then some ([], cs)
    else if c = '\\' then do
      let (units, rest) ← escaped? cs
      (readQuoted? quote fuel rest).map fun p => (units ++ p.1, p.2)
    else if isLineEnd c then none
    else (readQuoted? quote fuel cs).map fun p => (c.toNat :: p.1, p.2)

def beginsName (c : Char) : Bool := Text.isLetter c || c = '$' || c = '_'

def continuesName (c : Char) : Bool :=
  beginsName c || Text.isContinuing c || c = '\u200C' || c = '\u200D'

/-- The rest of a name as numbers, and what follows it; `fuel` bounds the number of characters. -/
def readName? : Nat → List Char → Option (List Nat × List Char)
  | 0, _ => none
  | fuel + 1, '\\' :: 'u' :: cs => do
    let (unit, rest) ← Text.readHex? 4 cs
    (readName? fuel rest).map fun p => (unit :: p.1, p.2)
  | fuel + 1, c :: cs =>
    if continuesName c then (readName? fuel cs).map fun p => (c.toNat :: p.1, p.2)
    else some ([], c :: cs)
  | _, [] => some ([], [])

/-- The text that numbers stand for, of which two may make up one character. -/
def ofUnits? : List Nat → Option (List Char)
  | [] => some []
  | high :: low :: units =>
    if 0xD800 ≤ high && high ≤ 0xDBFF && 0xDC00 ≤ low && low ≤ 0xDFFF then do
      let c ← Text.character? (0x10000 + 0x400 * (high - 0xD800) + (low - 0xDC00))
      some (c :: (← ofUnits? units))
    else do some ((← Text.character? high) :: (← ofUnits? (low :: units)))
  | [unit] => (Text.character? unit).map ([·])

/-- A text in quotes in front, and the rest. -/
def readText? : List Char → Option (String × List Char)
  | [] => none
  | c :: cs =>
    if c = '"' || c = '\'' then do
      let (units, rest) ← readQuoted? c (cs.length + 1) cs
      some (String.ofList (← ofUnits? units), rest)
    else none

/-- A key in front, in quotes or not, and the rest. -/
def readKey? (cs : List Char) : Option (String × List Char) :=
  match cs with
  | [] => none
  | c :: _ =>
    if c = '"' || c = '\'' then readText? cs
    else if beginsName c || c = '\\' then do
      let (units, rest) ← readName? (cs.length + 1) cs
      if units.isEmpty then none else some (String.ofList (← ofUnits? units), rest)
    else none

/-- A number in hexadecimal digits, within 32 bits, and the rest. -/
def readHexNumber? (cs : List Char) : Option (Setting × List Char) :=
  let isHex (c : Char) : Bool := (Text.hexValue? c).isSome
  let ds := cs.takeWhile isHex
  if ds.isEmpty then none
  else
    ((Text.hexNumber? ds).filter (· < UInt32.size)).map fun n => (.int n, cs.dropWhile isHex)

/-- An exponent in front, if there is one, and the rest. -/
def splitExponent (cs : List Char) : List Char × List Char :=
  match cs with
  | [] => ([], [])
  | c :: rest =>
    let sign := if rest.head? = some '+' || rest.head? = some '-' then rest.take 1 else []
    let ds := (rest.drop sign.length).takeWhile Char.isDigit
    if (c = 'e' || c = 'E') && !ds.isEmpty then
      (c :: (sign ++ ds), rest.drop (sign.length + ds.length))
    else ([], cs)

/-- A decimal number behind its sign, and the rest: a whole one of 64 bits, or a floating one that
is not beyond every number. -/
def readDecimal? (sign cs : List Char) : Option (Setting × List Char) :=
  let whole := cs.takeWhile Char.isDigit
  let (places?, rest) := match cs.dropWhile Char.isDigit with
    | '.' :: rest => (some (rest.takeWhile Char.isDigit), rest.dropWhile Char.isDigit)
    | rest => (none, rest)
  let (exponent, rest) := splitExponent rest
  if (whole.isEmpty && (places?.getD []).isEmpty) ||
      (1 < whole.length && whole.head? = some '0') then none
  else
    match places?, exponent with
    | none, [] =>
      ((Text.readInteger? (sign ++ whole)).filter Text.fitsInt64).map fun n => (.int n, rest)
    | _, _ =>
      ((Binary64.ofText? (sign ++ whole ++ '.' :: places?.getD [] ++ exponent)).filter
        (!·.isInfinite)).map fun x => (.float x, rest)

/-- The rest behind a word in front. -/
def afterWord? (word : String) (cs : List Char) : Option (List Char) :=
  if word.toList.isPrefixOf cs then some (cs.drop word.length) else none

/-- A number in front, and the rest. Only decimal digits may have a plus sign, and hexadecimal ones
have none. -/
def readNumber? (cs : List Char) : Option (Setting × List Char) :=
  let sign := if cs.head? = some '+' || cs.head? = some '-' then cs.take 1 else []
  let body := cs.drop sign.length
  match afterWord? "0x" body, afterWord? "0X" body with
  | some rest, _ | _, some rest => if sign.isEmpty then readHexNumber? rest else none
  | none, none =>
    match afterWord? "Infinity" body, afterWord? "NaN" body with
    | some rest, _ => if sign = ['+'] then none else some (.float (.infinity (sign = ['-'])), rest)
    | _, some rest => if sign = ['+'] then none else some (.float .nan, rest)
    | none, none => readDecimal? sign body

/-- A value without brackets in front, and the rest. -/
def readSimple? (cs : List Char) : Option (Setting × List Char) :=
  match afterWord? "null" cs, afterWord? "true" cs, afterWord? "false" cs with
  | some rest, _, _ => some (.null, rest)
  | _, some rest, _ => some (.bool true, rest)
  | _, _, some rest => some (.bool false, rest)
  | _, _, _ =>
    if cs.head? = some '"' || cs.head? = some '\'' then
      (readText? cs).map fun p => (.text p.1, p.2)
    else readNumber? cs

mutual
/-- A value in front, and the rest; `fuel` bounds the number of characters. -/
def value? : Nat → List Char → Option (Setting × List Char)
  | 0, _ => none
  | fuel + 1, '[' :: cs => do
    match ← skip? cs with
    | ']' :: rest => some (.list [], rest)
    | cs => (items? fuel cs).map fun p => (.list p.1, p.2)
  | fuel + 1, '\x7b' :: cs => do
    match ← skip? cs with
    | '\x7d' :: rest => some (.empty, rest)
    | cs => fields? fuel .empty cs
  | _, cs => readSimple? cs

/-- Values between commas up to a closing bracket, which a comma may precede, and the rest. -/
def items? : Nat → List Char → Option (List Setting × List Char)
  | 0, _ => none
  | fuel + 1, cs => do
    let (v, rest) ← value? fuel cs
    match ← skip? rest with
    | ']' :: rest => some ([v], rest)
    | ',' :: rest =>
      match ← skip? rest with
      | ']' :: rest => some ([v], rest)
      | cs => (items? fuel cs).map fun p => (v :: p.1, p.2)
    | _ => none

/-- Keys with values between commas up to a closing brace, which a comma may precede, laid over the
table so far, and the rest. The last value of a key counts. -/
def fields? : Nat → Setting → List Char → Option (Setting × List Char)
  | 0, _, _ => none
  | fuel + 1, table, cs => do
    let (key, rest) ← readKey? cs
    match ← skip? rest with
    | ':' :: rest =>
      let (v, rest) ← value? fuel (← skip? rest)
      let table := table.put key v
      match ← skip? rest with
      | '\x7d' :: rest => some (table, rest)
      | ',' :: rest =>
        match ← skip? rest with
        | '\x7d' :: rest => some (table, rest)
        | cs => fields? fuel table cs
      | _ => none
    | _ => none
end

def parse? (s : String) : Option (List (String × Setting)) := do
  let cs := s.toList
  let (v, rest) ← value? (cs.length + 1) (← skip? cs)
  match ← skip? rest, v with
  | [], .table es => some es
  | _, _ => none

end PagedQuery.Json5
