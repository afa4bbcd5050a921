import PagedQuery.Config.Yaml.Cursor
import PagedQuery.Text.Digits

/-!
Texts of YAML: words, texts in quotes, and blocks of lines. Inside words and quotes the end of a
line is a space, and empty lines stand for the ends of lines.
-/

namespace PagedQuery.Yaml

/-- What lies between two pieces of a text: blanks on the line of the first, the end of that line,
and empty lines. -/
structure Fold where
  blanks : List Char := []
  endsLine : Bool := false
  emptyLines : Nat := 0

/-- The text that a fold stands for; `onNewLine` tells that the second piece stands on a line of its
own. -/
def Fold.text (onNewLine : Bool) (f : Fold) : List Char :=
  if !onNewLine then f.blanks
  else if f.endsLine && f.emptyLines = 0 then [' ']
  else List.replicate f.emptyLines '\n'

/-- The character in front may be part of a word: it is no colon at the end of a key, and between
brackets no mark. -/
def isWordAt (inFlow : Bool) : List Char → Bool
  | [] => false
  | c :: cs =>
    if c = ':' then !cs.head?.all fun d => isGap d || (inFlow && isMark d)
    else !isGap c && !(inFlow && isMark c)

/-- The characters of a word in front. -/
def wordRun (inFlow : Bool) : List Char → List Char
  | [] => []
  | c :: cs => if isWordAt inFlow (c :: cs) then c :: wordRun inFlow cs else []

/-- The fold inside a word that begins here, behind what was read of it. Tabs do not stand for the
spaces up to `indent`, except on empty lines. `fuel` bounds the number of characters. -/
def wordFold? (indent : Int) : Nat → Fold → Cursor → Option (Fold × Cursor)
  | 0, _, _ => none
  | fuel + 1, f, c =>
    match c.rest with
    | [] => some (f, c)
    | d :: _ =>
      if d = '\n' then
        let f := if c.inIndent then { f with emptyLines := f.emptyLines + 1 }
          else { f with blanks := [], endsLine := true }
        wordFold? indent fuel f c.nextLine
      else if !isBlank d then some (f, c)
      else if !c.inIndent then
        wordFold? indent fuel { f with blanks := f.blanks ++ [d] } (c.moved 1)
      else if d = '\t' && (c.column : Int) < indent then do
        let next ← c.afterGap?
        if next.atLineEnd then wordFold? indent fuel f next else none
      else wordFold? indent fuel f (c.moved 1)

/-- Words with folds between them, behind a fold, and the cursor behind the last fold. Outside
brackets the lines are indented by `indent`. `fuel` bounds the number of words. -/
def readWords? (inFlow : Bool) (indent : Int) :
    Nat → Fold → Cursor → Option (List Char × Cursor)
  | 0, _, _ => none
  | fuel + 1, f, c =>
    if c.isAtStart || c.isAtEnd || c.rest.head? = some '#' then some ([], c)
    else if inFlow && c.rest.head? = some '-' && (c.rest.drop 1).head?.any isMark then none
    else do
      let word := wordRun inFlow c.rest
      let (front, f, c) :=
        if word.isEmpty then ([], f, c) else (f.text c.inIndent ++ word, {}, c.past word.length)
      if !c.rest.head?.any isGap then some (front, c)
      else
        let (f, c) ← wordFold? indent (c.rest.length + 1) f c
        if !inFlow && (c.column : Int) < indent then some (front, c)
        else (readWords? inFlow indent fuel f c).map fun p => (front ++ p.1, p.2)

/-- The characters that an escape stands for, by its letter, and how many characters the escape has
behind its backslash. -/
def escaped? : List Char → Option (Char × Nat)
  | [] => none
  | 'x' :: cs => (Text.readNumbered? 2 cs).map fun p => (p.1, 3)
  | 'u' :: cs => (Text.readNumbered? 4 cs).map fun p => (p.1, 5)
  | 'U' :: cs => (Text.readNumbered? 8 cs).map fun p => (p.1, 9)
  | c :: _ =>
    let escapes := [('0', '\x00'), ('a', '\x07'), ('b', '\x08'), ('t', '\t'), ('\t', '\t'),
      ('n', '\n'), ('v', '\x0b'), ('f', '\x0c'), ('r', '\r'), ('e', '\x1b'), (' ', ' '),
      ('"', '"'), ('/', '/'), ('\\', '\\'), ('N', '\u0085'), ('_', '\u00a0'), ('L', '\u2028'),
      ('P', '\u2029')]
    (escapes.find? fun e => e.1 = c).map fun e => (e.2, 1)

/-- A piece of a text in quotes up to a gap, to the closing quote or behind an escaped line end,
which of these it is, and the cursor behind it. `fuel` bounds the number of characters. -/
def quotedPiece? (quote : Char) : Nat → Cursor → Option (List Char × Bool × Cursor)
  | 0, _ => none
  | fuel + 1, c =>
    match c.rest with
    | [] => some ([], false, c)
    | d :: ds =>
      if isGap d then some ([], false, c)
      else if d = quote then
        if quote = '\'' && ds.head? = some quote then
          (quotedPiece? quote fuel (c.past 2)).map fun p => (d :: p.1, p.2)
        else some ([], false, c)
      else if d = '\\' && quote = '"' then
        if ds.head? = some '\n' then some ([], true, (c.past 1).nextLine)
        else do
          let (e, n) ← escaped? ds
          (quotedPiece? quote fuel (c.past (n + 1))).map fun p => (e :: p.1, p.2)
      else (quotedPiece? quote fuel (c.past 1)).map fun p => (d :: p.1, p.2)

/-- The fold inside quotes that begins here, behind what was read of it, and whether a line ended.
`fuel` bounds the number of characters. -/
def quotedFold? (indent : Int) :
    Nat → Bool → Fold → Cursor → Option (Bool × Fold × Cursor)
  | 0, _, _, _ => none
  | fuel + 1, crossed, f, c =>
    match c.rest with
    | [] => some (crossed, f, c)
    | d :: _ =>
      if d = '\n' then
        let f := if crossed then { f with emptyLines := f.emptyLines + 1 }
          else { f with blanks := [], endsLine := true }
        quotedFold? indent fuel true f c.nextLine
      else if !isBlank d then some (crossed, f, c)
      else if !crossed then
        quotedFold? indent fuel crossed { f with blanks := f.blanks ++ [d] } (c.moved 1)
      else if d = '\t' && (c.column : Int) < indent then none
      else quotedFold? indent fuel crossed f (c.moved 1)

/-- A text up to its closing quote, and the cursor behind that. Its lines are indented by `indent`.
`fuel` bounds the number of characters. -/
def readQuoted? (quote : Char) (indent : Int) : Nat → Cursor → Option (List Char × Cursor)
  | 0, _ => none
  | fuel + 1, c =>
    if c.isAtStart || c.isAtEnd || c.rest.isEmpty || (c.column : Int) < indent then none
    else do
      let (piece, crossed, c) ← quotedPiece? quote (c.rest.length + 1) c
      if c.rest.head? = some quote then some (piece, c.past 1)
      else
        let (crossed, f, c) ← quotedFold? indent (c.rest.length + 1) crossed {} c
        (readQuoted? quote indent fuel c).map fun p => (piece ++ f.text crossed ++ p.1, p.2)

/-- What becomes of the ends of the last lines of a block. -/
inductive Chomping where
  /-- The first one stays. -/
  | clip
  | strip
  | keep
deriving DecidableEq, Repr

/-- The sign for the ends of the last lines. -/
def Chomping.ofChar? (c : Char) : Option Chomping :=
  if c = '+' then some keep else if c = '-' then some strip else none

/-- A number of columns from 1 to 9. -/
def columns? (c : Char) : Option Nat :=
  if c.isDigit && c ≠ '0' then some (Text.digitsValue [c]) else none

/-- What the sign for the ends of the last lines and the number of columns in front of a block say,
and how many characters they have. Both may be missing, and they stand in any order. -/
def readHeader? (cs : List Char) : Option (Chomping × Option Nat × Nat) :=
  match cs with
  | [] => some (.clip, none, 0)
  | c :: cs =>
    let next := cs.head?.getD '\n'
    match Chomping.ofChar? c with
    | some chomping =>
      if next.isDigit then (columns? next).map fun n => (chomping, some n, 2)
      else some (chomping, none, 1)
    | none =>
      if c.isDigit then
        (columns? c).map fun n => match Chomping.ofChar? next with
          | some chomping => (chomping, some n, 2)
          | none => (.clip, some n, 1)
      else some (.clip, none, 0)

/-- The greatest number of spaces on the empty lines in front and the line behind them, how many
empty lines there are, and the cursor behind these spaces. `fuel` bounds the number of lines. -/
def firstIndent : Nat → Nat → Nat → Cursor → Nat × Nat × Cursor
  | 0, greatest, breaks, c => (greatest, breaks, c)
  | fuel + 1, greatest, breaks, c =>
    let c := c.moved (c.run (· = ' ')).length
    let greatest := max greatest c.column
    if c.rest.head? = some '\n' then firstIndent fuel greatest (breaks + 1) c.nextLine
    else (greatest, breaks, c)

/-- How many empty lines are in front, and the cursor behind them and behind spaces up to column
`indent`. `fuel` bounds the number of lines. -/
def skipIndent (indent : Nat) : Nat → Nat → Cursor → Nat × Cursor
  | 0, breaks, c => (breaks, c)
  | fuel + 1, breaks, c =>
    let c := c.moved (min (indent - c.column) (c.run (· = ' ')).length)
    if c.rest.head? = some '\n' then skipIndent indent fuel (breaks + 1) c.nextLine
    else (breaks, c)

/-- The lines of a block that begin at column `indent`, behind `breaks` empty lines and another line
if there is one, of which is known whether it begins with a blank. The text, whether a line end
follows it, how many empty lines follow, and the cursor behind them. `fuel` bounds the number of
lines. -/
def blockLines (isLiteral : Bool) (indent : Nat) :
    Nat → Option Bool → Nat → Cursor → List Char × Bool × Nat × Cursor
  | 0, before, breaks, c => ([], before.isSome, breaks, c)
  | fuel + 1, before, breaks, c =>
    if c.column ≠ indent || c.rest.isEmpty || (indent = 0 && (c.isAtStart || c.isAtEnd)) then
      ([], before.isSome, breaks, c)
    else
      let beginsBlank := c.rest.head?.any isBlank
      let emptyLines := List.replicate breaks '\n'
      let front :=
        if !isLiteral && before = some false && !beginsBlank then
          if breaks = 0 then [' '] else emptyLines
        else if before.isSome then '\n' :: emptyLines
        else emptyLines
      let line := c.run (· ≠ '\n')
      let c := c.moved line.length
      if c.rest.isEmpty then (front ++ line, false, 0, c)
      else
        let (breaks, c) := skipIndent indent c.rest.length 0 c.nextLine
        let (text, rest) := blockLines isLiteral indent fuel (some beginsBlank) breaks c
        (front ++ line ++ text, rest)

/-- A block of lines below a line that is indented by `outer`, and the cursor behind it. The cursor
stands behind the mark of the block. In a block that is not literal, lines that do not begin with
blanks become one. -/
def readBlock? (isLiteral : Bool) (outer : Int) (c : Cursor) : Option (List Char × Cursor) := do
  let (chomping, columns, n) ← readHeader? c.rest
  let c ← (if n = 0 then c else c.past n).afterGap?
  if !c.atLineEnd then none
  else
    let c := if c.rest.isEmpty then c else c.nextLine
    if c.rest.head? = some '\t' then none
    else
      let fuel := c.rest.length + 1
      let (indent, breaks, c) := match columns with
        | some n =>
          let indent := (max outer 0).toNat + n
          (indent, skipIndent indent fuel 0 c)
        | none =>
          let (greatest, breaks, c) := firstIndent fuel 0 0 c
          (max greatest (outer + 1).toNat, breaks, c)
      if c.column < indent && outer < c.column then none
      else
        let (text, endsLine, breaks, c) := blockLines isLiteral indent fuel none breaks c
        let lineEnd := if endsLine then ['\n'] else []
        let missing := if c.rest.isEmpty && max indent 1 ≤ c.column then ['\n'] else []
        let emptyLines := List.replicate breaks '\n'
        some (match chomping with
          | .strip => (text, c)
          | .clip => (text ++ lineEnd ++ missing, c)
          | .keep => (text ++ lineEnd ++ missing ++ emptyLines, c))

end PagedQuery.Yaml
