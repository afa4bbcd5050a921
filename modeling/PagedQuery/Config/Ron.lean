import PagedQuery.Config.Setting

/-!
Documents in RON: tables, records with or without a name, lists, tuples, options, texts, characters
and numbers, with comments between them.
-/

namespace PagedQuery.Ron

def isSpace (c : Char) : Bool := c = ' ' || c = '\t' || c = '\n' || c = '\r'

/-- What follows a comment in which `depth` more are open. -/
def afterBlock? : Nat → List Char → Option (List Char)
  | _, [] => none
  | depth, '/' :: '*' :: cs => afterBlock? (depth + 1) cs
  | 0, '*' :: '/' :: cs => some cs
  | depth + 1, '*' :: '/' :: cs => afterBlock? depth cs
  | depth, _ :: cs => afterBlock? depth cs

/-- The characters without blanks and comments in front; `fuel` bounds the number of comments. -/
def skipFrom? : Nat → List Char → Option (List Char)
  | 0, _ => none
  | fuel + 1, cs =>
    match cs.dropWhile isSpace with
    | '/' :: '/' :: rest => skipFrom? fuel (rest.dropWhile (· ≠ '\n'))
    | '/' :: '*' :: rest => (afterBlock? 0 rest).bind (skipFrom? fuel)
    | '/' :: _ => none
    | rest => some rest

/-- The characters without blanks and comments in front. -/
def skip? (cs : List Char) : Option (List Char) := skipFrom? (cs.length + 1) cs

/-- The rest behind a mark and the gap behind that, where the mark stands in front. -/
def afterMark? (mark : Char) : List Char → Option (List Char)
  | c :: cs => if c = mark then skip? cs else none
  | [] => none

def beginsName (c : Char) : Bool := c.isAlpha || c = '_'

def isNameChar (c : Char) : Bool := c.isAlphanum || c = '_'

/-- A character of a name behind `r#`. -/
def isRawChar (c : Char) : Bool := isNameChar c || c = '.' || c = '+' || c = '-'

/-- The characters of a name in front, and the rest. -/
def readWord (cs : List Char) : String × List Char :=
  (String.ofList (cs.takeWhile isNameChar), cs.dropWhile isNameChar)

/-- A name in front, and the rest. -/
def readName? : List Char → Option (String × List Char)
  | 'r' :: '"' :: _ => none
  | 'r' :: '#' :: cs =>
    let name := cs.takeWhile isRawChar
    if name.isEmpty then none else some (String.ofList name, cs.dropWhile isRawChar)
  | cs =>
    let (name, rest) := readWord cs
    if cs.head?.any beginsName && !rest.head?.any isRawChar then some (name, rest) else none

def escaped? : List Char → Option (Char × List Char)
  | [] => none
  | 'x' :: cs => Text.readNumbered? 2 cs
  | 'u' :: '\x7b' :: cs => do
    let ds := cs.takeWhile (· ≠ '\x7d')
    if ds.isEmpty || 6 < ds.length || ds.length = cs.length then none
    else some (← (Text.hexNumber? ds).bind Text.character?, cs.drop (ds.length + 1))
  | c :: cs =>
    let escapes := [('\'', '\''), ('"', '"'), ('\\', '\\'), ('n', '\n'), ('r', '\r'), ('t', '\t'),
      ('0', '\x00')]
    (escapes.find? fun e => e.1 = c).map fun e => (e.2, cs)

/-- A text up to its closing quote, and the rest; `fuel` bounds the number of characters. -/
def readQuoted? : Nat → List Char → Option (List Char × List Char)
  | 0, _ | _, [] => none
  | fuel + 1, c :: cs =>
    if c = '"' then some ([], cs)
    else if c = '\\' then do
      let (d, rest) ← escaped? cs
      (readQuoted? fuel rest).map fun p => (d :: p.1, p.2)
    else (readQuoted? fuel cs).map fun p => (c :: p.1, p.2)

/-- The characters before and behind the first occurrence of an end mark. -/
def splitAt? (mark : List Char) : List Char → Option (List Char × List Char)
  | [] => none
  | c :: cs =>
    if mark.isPrefixOf (c :: cs) then some ([], (c :: cs).drop mark.length)
    else (splitAt? mark cs).map fun p => (c :: p.1, p.2)

/-- A text in quotes in front, and the rest. Behind `r` it is taken as it is written, and may have
number signs around it. -/
def readText? : List Char → Option (List Char × List Char)
  | '"' :: cs => readQuoted? (cs.length + 1) cs
  | 'r' :: cs =>
    let signs := cs.takeWhile (· = '#')
    match cs.dropWhile (· = '#') with
    | '"' :: body => splitAt? ('"' :: signs) body
    | _ => none
  | _ => none

/-- A single character in quotes in front, and the rest. -/
def readCharacter? : List Char → Option (Char × List Char)
  | '\'' :: '\\' :: cs => do
    let (c, rest) ← escaped? cs
    if rest.head? = some '\'' then some (c, rest.drop 1) else none
  | '\'' :: c :: '\'' :: cs => if c = '\'' then none else some (c, cs)
  | _ => none

/-- A character of a whole number, of which letters are digits of base 16. -/
def isWholeChar (c : Char) : Bool := (Text.hexValue? c).isSome || c = '_'

def isFloatChar (c : Char) : Bool := c.isDigit || "eE.+-_".toList.contains c

def splitBase : List Char → Nat × List Char
  | '0' :: 'x' :: cs => (16, cs)
  | '0' :: 'o' :: cs => (8, cs)
  | '0' :: 'b' :: cs => (2, cs)
  | cs => (10, cs)

/-- A whole number in front, and the rest. Underscores may stand behind its first digit. Without a
sign it has 64 bits, of which the last one makes it a floating number; with a sign, 63. -/
def readWhole? (cs : List Char) : Option (Setting × List Char) := do
  let (negative, body) := Text.splitSign cs
  let (base, digits) := splitBase body
  let run := digits.takeWhile isWholeChar
  let rest := digits.dropWhile isWholeChar
  if run.isEmpty || run.head? = some '_' then none
  else
    let n ← Text.valueIn? base (run.filter (· ≠ '_'))
    let signed : Int := if negative then -n else n
    if Text.fitsInt64 signed then some (.int signed, rest)
    else if body.length = cs.length && n < UInt64.size then
      some (.float (.ofDecimal false n 0), rest)
    else none

/-- A floating number in digits in front, and the rest. -/
def readFloat? (cs : List Char) : Option (Setting × List Char) :=
  let run := cs.takeWhile isFloatChar
  if run.contains '_' then none
  else (Binary64.ofText? run).map fun x => (.float x, cs.dropWhile isFloatChar)

/-- An infinite number or none, in words and with a sign or not, and the rest. -/
def readNonFinite? (cs : List Char) : Option (Setting × List Char) :=
  let sign := if cs.head? = some '+' || cs.head? = some '-' then cs.take 1 else []
  let (word, rest) := readWord (cs.drop sign.length)
  if word = "inf" || word = "NaN" then
    (Binary64.ofText? (sign ++ word.toList)).map fun x => (.float x, rest)
  else none

/-- A number in front, and the rest. It is whole unless more characters of floating numbers than of
whole ones follow, or 64 bits do not hold it. -/
def readNumber? (cs : List Char) : Option (Setting × List Char) :=
  let body := (Text.splitSign cs).2
  let isFloat := (body.takeWhile isWholeChar).length < (body.takeWhile isFloatChar).length
  match if isFloat then none else readWhole? cs with
  | some p => some p
  | none => readFloat? cs

/-- What a word in front that stands for a value of its own says, and the rest. -/
def readConstant? (cs : List Char) : Option (Setting × List Char) :=
  let (word, rest) := readWord cs
  if word = "true" then some (.bool true, rest)
  else if word = "false" then some (.bool false, rest)
  else if word = "None" then some (.null, rest)
  else
    match cs with
    | '(' :: ')' :: rest => some (.null, rest)
    | cs => readNonFinite? cs

/-- A text, a character or a number in front, and the rest. -/
def readSimple? (cs : List Char) : Option (Setting × List Char) :=
  match readText? cs, readCharacter? cs with
  | some (text, rest), _ => some (.text (String.ofList text), rest)
  | _, some (c, rest) => some (.text (String.ofList [c]), rest)
  | none, none =>
    if cs.head?.any fun c => c.isDigit || c = '+' || c = '-' || c = '.' then readNumber? cs
    else none

/-- The key of a table, a text or a character, whether it is a text, and the rest. -/
def readKey? (cs : List Char) : Option ((String × Bool) × List Char) :=
  match readText? cs, readCharacter? cs with
  | some (text, rest), _ => some ((String.ofList text, true), rest)
  | _, some (c, rest) => some ((String.ofList [c], false), rest)
  | none, none => none

/-- The parenthesis in front, already read, holds named fields: its first name has a colon behind
it. -/
def isRecord (cs : List Char) : Bool :=
  match readName? cs with
  | some (_, rest) => ((skip? rest).bind (·.head?)) = some ':'
  | none => false

/-- The table with entries of which the last one of a key counts; texts count before characters. -/
def tableOf (entries : List ((String × Bool) × Setting)) : Setting :=
  let put (table : Setting) (e : (String × Bool) × Setting) : Setting := table.put e.1.1 e.2
  (entries.filter (·.1.2)).foldl put ((entries.filter (!·.1.2)).foldl put .empty)

/-- How many lists, tables and options may lie one inside the other. -/
def nestingLimit : Nat := 128

mutual
/-- A value in front, and the rest. A name stands for nothing by itself, and adds nothing to the
parenthesis behind it. Where options are `implicit`, `Some` needs no parenthesis. `fuel` bounds the
number of characters, and `room` how deep values may lie inside others. -/
def value? (implicit : Bool) : Nat → Nat → List Char → Option (Setting × List Char)
  | 0, _, _ => none
  | fuel + 1, room, cs =>
    match readConstant? cs with
    | some p => some p
    | none =>
      let (word, behind) := readWord cs
      if word = "Some" then do
        match room, ← skip? behind with
        | room + 1, '(' :: inner =>
          let (v, rest) ← value? implicit fuel room (← skip? inner)
          let rest ← skip? rest
          let rest := (afterMark? ',' rest).getD rest
          if rest.head? = some ')' then some (v, rest.drop 1) else none
        | room + 1, inner => if implicit then value? implicit fuel room inner else none
        | 0, _ => none
      else
        match readName? cs with
        | some (_, rest) => do
          match ← skip? rest with
          | '(' :: inner => group? implicit fuel room (← skip? inner)
          | rest => some (.null, rest)
        | none => do
          match cs with
          | '(' :: inner => group? implicit fuel room (← skip? inner)
          | '[' :: inner =>
            (items? implicit ']' fuel room (← skip? inner)).map fun p => (.list p.1, p.2)
          | '\x7b' :: inner =>
            (entries? implicit false '\x7d' fuel room (← skip? inner)).map fun p =>
              (tableOf p.1, p.2)
          | cs => readSimple? cs

/-- The rest of a parenthesis: named fields, or the items of a tuple. -/
def group? (implicit : Bool) : Nat → Nat → List Char → Option (Setting × List Char)
  | 0, _, _ => none
  | fuel + 1, room, cs =>
    if isRecord cs then
      (entries? implicit true ')' fuel room cs).map fun p => (tableOf p.1, p.2)
    else (items? implicit ')' fuel room cs).map fun p => (.list p.1, p.2)

/-- Values between commas up to a closing mark, which a comma may precede, and the rest. -/
def items? (implicit : Bool) (close : Char) :
    Nat → Nat → List Char → Option (List Setting × List Char)
  | 0, _, _ => none
  | fuel + 1, room, cs =>
    if cs.head? = some close then some ([], cs.drop 1)
    else
      match room with
      | 0 => none
      | inner + 1 => do
        let (v, rest) ← value? implicit fuel inner cs
        let rest ← skip? rest
        match afterMark? ',' rest with
        | some rest => (items? implicit close fuel room rest).map fun p => (v :: p.1, p.2)
        | none => if rest.head? = some close then some ([v], rest.drop 1) else none

/-- Keys with values between commas up to a closing mark, which a comma may precede, and the rest.
In records keys are names. -/
def entries? (implicit inRecord : Bool) (close : Char) :
    Nat → Nat → List Char → Option (List ((String × Bool) × Setting) × List Char)
  | 0, _, _ => none
  | fuel + 1, room, cs =>
    if cs.head? = some close then some ([], cs.drop 1)
    else
      match room with
      | 0 => none
      | inner + 1 => do
        let (key, rest) ←
          if inRecord then (readName? cs).map fun p => ((p.1, true), p.2) else readKey? cs
        let (v, rest) ← value? implicit fuel inner (← afterMark? ':' (← skip? rest))
        let rest ← skip? rest
        match afterMark? ',' rest with
        | some rest =>
          (entries? implicit inRecord close fuel room rest).map fun p => ((key, v) :: p.1, p.2)
        | none => if rest.head? = some close then some ([(key, v)], rest.drop 1) else none
end

/-- The names between commas in front, which a comma may follow, and the rest; `fuel` bounds the
number of names. -/
def readNames? : Nat → List Char → Option (List String × List Char)
  | 0, _ => none
  | fuel + 1, cs => do
    let (name, rest) ← readName? cs
    let rest ← skip? rest
    match afterMark? ',' rest with
    | none => some ([name], rest)
    | some rest =>
      if rest.head?.any isNameChar then
        (readNames? fuel rest).map fun p => (name :: p.1, p.2)
      else some ([name], rest)

/-- The extensions that a document may ask for in front. -/
def extensions : List String := ["unwrap_newtypes", "implicit_some", "unwrap_variant_newtypes"]

/-- The extensions that a document asks for in front, and the rest; `fuel` bounds the number of
characters. -/
def readExtensions? : Nat → List Char → Option (List String × List Char)
  | 0, _ => none
  | fuel + 1, cs =>
    if cs.head? ≠ some '#' then some ([], cs)
    else do
      let rest ← afterMark? '!' (← afterMark? '#' cs)
      let (word, rest) := readWord (← afterMark? '[' rest)
      let rest ← afterMark? '(' (← skip? rest)
      let (names, rest) ← readNames? rest.length rest
      let rest ← afterMark? ']' (← afterMark? ')' rest)
      if word = "enable" && names.all extensions.contains then
        (readExtensions? fuel rest).map fun p => (names ++ p.1, p.2)
      else none

def parse? (s : String) : Option (List (String × Setting)) := do
  let cs ← skip? s.toList
  let (asked, cs) ← readExtensions? (cs.length + 1) cs
  let (v, rest) ← value? (asked.contains "implicit_some") (2 * cs.length + 2) nestingLimit cs
  match ← skip? rest, v with
  | [], .table es => some es
  | _, _ => none

end PagedQuery.Ron
