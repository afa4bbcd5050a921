import PagedQuery.Text.Digits

/-!
Texts and gaps of TOML: names, quoted texts on one line or several, and comments. Every line ends in
a single line feed here.
-/

namespace PagedQuery.Toml

def isGap (c : Char) : Bool := c = ' ' || c = '\t'

/-- The characters without spaces and tabs in front. -/
def skipGap (cs : List Char) : List Char := cs.dropWhile isGap

/-- A character that stands in a document only through an escape, or as the end of a line. -/
def isControl (c : Char) : Bool := (c.toNat < 0x20 && c ≠ '\t') || c.toNat = 0x7F

def plainLines : List Char → List Char
  | '\r' :: '\n' :: cs => '\n' :: plainLines cs
  | c :: cs => c :: plainLines cs
  | [] => []

/-- The characters of a text without the byte order mark that may stand in front. -/
def withoutMark : List Char → List Char
  | '\uFEFF' :: cs => cs
  | cs => cs

def escaped? : List Char → Option (Char × List Char)
  | 'b' :: cs => some ('\x08', cs)
  | 't' :: cs => some ('\t', cs)
  | 'n' :: cs => some ('\n', cs)
  | 'f' :: cs => some ('\x0c', cs)
  | 'r' :: cs => some ('\r', cs)
  | '"' :: cs => some ('"', cs)
  | '\\' :: cs => some ('\\', cs)
  | 'u' :: cs => Text.readNumbered? 4 cs
  | 'U' :: cs => Text.readNumbered? 8 cs
  | _ => none

/-- A text on one line up to its closing quote, and the rest. Double quotes allow escapes. `fuel`
bounds the number of characters. -/
def readShort? (quote : Char) : Nat → List Char → Option (List Char × List Char)
  | 0, _ | _, [] => none
  | fuel + 1, c :: cs =>
    if c = quote then some ([], cs)
    else if c = '\\' && quote = '"' then do
      let (d, rest) ← escaped? cs
      let (text, rest) ← readShort? quote fuel rest
      some (d :: text, rest)
    else if isControl c then none
    else (readShort? quote fuel cs).map fun p => (c :: p.1, p.2)

/-- A text on several lines up to its three closing quotes, and the rest. Up to two more quotes in
front of these belong to the text. Where escapes are allowed, one of a line end stands for nothing
and takes the gap behind it along. -/
def readLong? (quote : Char) : Nat → List Char → Option (List Char × List Char)
  | 0, _ | _, [] => none
  | fuel + 1, c :: cs =>
    if c = quote then
      let quotes := (cs.takeWhile (· = quote)).length + 1
      if quotes < 3 then (readLong? quote fuel cs).map fun p => (c :: p.1, p.2)
      else
        let kept := min (quotes - 3) 2
        some (List.replicate kept quote, cs.drop (kept + 2))
    else if c = '\\' && quote = '"' then
      match skipGap cs with
      | '\n' :: rest => readLong? quote fuel (rest.dropWhile fun c => isGap c || c = '\n')
      | _ => do
        let (d, rest) ← escaped? cs
        let (text, rest) ← readLong? quote fuel rest
        some (d :: text, rest)
    else if isControl c && c ≠ '\n' then none
    else (readLong? quote fuel cs).map fun p => (c :: p.1, p.2)

/-- A quoted text in front, and the rest. A line end right behind three opening quotes does not
count. -/
def readQuoted? : List Char → Option (List Char × List Char)
  | a :: b :: c :: cs =>
    if a ≠ '"' && a ≠ '\'' then none
    else if a = b && b = c then
      let body := if cs.head? = some '\n' then cs.drop 1 else cs
      readLong? a (body.length + 1) body
    else readShort? a (cs.length + 3) (b :: c :: cs)
  | a :: cs => if a = '"' || a = '\'' then readShort? a (cs.length + 1) cs else none
  | [] => none

/-- A character of a name without quotes. -/
def isNameChar (c : Char) : Bool := c.isAlphanum || c = '_' || c = '-'

/-- A name in front, which may be a quoted text on one line, and the rest. -/
def readName? : List Char → Option (String × List Char)
  | [] => none
  | c :: cs =>
    if c = '"' || c = '\'' then
      (readShort? c (cs.length + 1) cs).map fun p => (String.ofList p.1, p.2)
    else if isNameChar c then
      some (String.ofList (c :: cs.takeWhile isNameChar), cs.dropWhile isNameChar)
    else none

/-- How many names a dotted key may have, and how many arrays and inline tables may lie one inside
the other. -/
def nestingLimit : Nat := 79

/-- The names of a dotted key in front, of which there are at most `room`, and the rest without
spaces in front. -/
def readNames? : Nat → List Char → Option (List String × List Char)
  | 0, _ => none
  | room + 1, cs => do
    let (name, rest) ← readName? (skipGap cs)
    match skipGap rest with
    | '.' :: rest => (readNames? room rest).map fun p => (name :: p.1, p.2)
    | rest => some ([name], rest)

/-- A dotted key in front, and the rest without spaces in front. -/
def readKey? (cs : List Char) : Option (List String × List Char) := readNames? nestingLimit cs

/-- What follows the comment that may stand in front, from its line end on. -/
def afterComment? : List Char → Option (List Char)
  | '#' :: cs =>
    if (cs.takeWhile (· ≠ '\n')).any isControl then none else some (cs.dropWhile (· ≠ '\n'))
  | cs => some cs

/-- What follows the end of a line, in front of which a comment may stand. -/
def afterLine? (cs : List Char) : Option (List Char) :=
  match afterComment? (skipGap cs) with
  | some ('\n' :: rest) => some rest
  | some [] => some []
  | _ => none

/-- The characters without gaps, line ends and comments in front; `fuel` bounds the number of
comments. -/
def skipLines? : Nat → List Char → Option (List Char)
  | 0, _ => none
  | fuel + 1, cs =>
    match cs.dropWhile fun c => isGap c || c = '\n' with
    | '#' :: rest => (afterComment? ('#' :: rest)).bind (skipLines? fuel)
    | rest => some rest

end PagedQuery.Toml
