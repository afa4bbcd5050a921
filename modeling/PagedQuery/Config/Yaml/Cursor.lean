/-!
Places in a YAML document, and the gaps between its tokens. Every line ends in a single line feed
here.
-/

namespace PagedQuery.Yaml

def isBlank (c : Char) : Bool := c = ' ' || c = '\t'

def isGap (c : Char) : Bool := isBlank c || c = '\n'

def isMark (c : Char) : Bool := c = ',' || c = '[' || c = ']' || c = '\x7b' || c = '\x7d'

def isWordChar (c : Char) : Bool := c.isAlphanum || c = '_' || c = '-'

/-- The characters with a line feed alone at the end of each line. -/
def plainLines : List Char → List Char
  | '\r' :: '\n' :: cs => '\n' :: plainLines cs
  | '\r' :: cs => '\n' :: plainLines cs
  | c :: cs => c :: plainLines cs
  | [] => []

/-- A place in a document: what follows, and where it is. -/
structure Cursor where
  rest : List Char
  /-- How many characters lie in front of it. -/
  offset : Nat
  line : Nat
  column : Nat
  /-- Only blanks lie in front of it on its line. -/
  inIndent : Bool
deriving Repr

namespace Cursor

/-- The beginning of a document, which ends in front of its first NUL. -/
def ofText (s : String) : Cursor :=
  ⟨plainLines (s.toList.takeWhile (· ≠ '\x00')), 0, 0, 0, true⟩

/-- The cursor behind `n` characters on the same line. -/
def moved (n : Nat) (c : Cursor) : Cursor :=
  { c with rest := c.rest.drop n, offset := c.offset + n, column := c.column + n }

/-- The cursor behind `n` characters that are no blanks. -/
def past (n : Nat) (c : Cursor) : Cursor := { c.moved n with inIndent := false }

/-- The cursor behind the end of a line. -/
def nextLine (c : Cursor) : Cursor :=
  ⟨c.rest.drop 1, c.offset + 1, c.line + 1, 0, true⟩

/-- The characters in front of which the cursor stands and that satisfy `p`. -/
def run (p : Char → Bool) (c : Cursor) : List Char := c.rest.takeWhile p

/-- The cursor behind the characters that satisfy `p`; blanks are not among them. -/
def afterRun (p : Char → Bool) (c : Cursor) : Cursor :=
  let n := (c.run p).length
  if n = 0 then c else c.past n

/-- The cursor behind blanks. -/
def afterBlanks (c : Cursor) : Cursor := c.moved (c.run isBlank).length

def atLineEnd (c : Cursor) : Bool := c.rest.head?.all (· = '\n')

/-- The character `n` places on ends a word: it is a gap or lies behind the end. -/
def isGapAt (n : Nat) (c : Cursor) : Bool := (c.rest.drop n).head?.all isGap

/-- The cursor behind the blanks and the comment that may follow on the same line. A comment has
blanks in front of it. -/
def afterGap? (c : Cursor) : Option Cursor :=
  let next := c.afterBlanks
  if next.rest.head? = some '#' then
    if next.offset = c.offset then none else some (next.afterRun (· ≠ '\n'))
  else some next

/-- A mark of three hyphens or points at the beginning of a line, where documents begin or end. -/
def isAtMark (marks : List Char) (c : Cursor) : Bool :=
  c.column = 0 && c.rest.take 3 = marks && c.isGapAt 3

def isAtStart (c : Cursor) : Bool := c.isAtMark ['-', '-', '-']

def isAtEnd (c : Cursor) : Bool := c.isAtMark ['.', '.', '.']

/-- The cursor at the next token, and whether a line ended on the way. On lines with a token, tabs
do not stand for the spaces up to `indent`. `fuel` bounds the number of characters. -/
def toToken? (indent : Int) : Nat → Bool → Cursor → Option (Bool × Cursor)
  | 0, _, _ => none
  | fuel + 1, crossed, c =>
    match c.rest with
    | [] => some (crossed, c)
    | d :: _ =>
      if d = '\n' then toToken? indent fuel true c.nextLine
      else if d = '#' then toToken? indent fuel crossed (c.afterRun (· ≠ '\n'))
      else if d = '\t' && c.inIndent && (c.column : Int) < indent then do
        let next ← c.afterGap?
        if next.atLineEnd then toToken? indent fuel crossed next else none
      else if isBlank d then toToken? indent fuel crossed (c.moved 1)
      else some (crossed, c)

end Cursor

end PagedQuery.Yaml
