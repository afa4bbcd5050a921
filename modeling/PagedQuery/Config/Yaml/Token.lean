import PagedQuery.Config.Yaml.Property
import PagedQuery.Config.Yaml.Scalar

/-!
The tokens of a YAML document. Lists and tables that only their indents delimit get tokens at both
ends, and keys get one in front, which is known only at the colon behind them.
-/

namespace PagedQuery.Yaml

inductive Token where
  | directive (d : Directive)
  | documentStart
  | documentEnd
  | blockListStart
  | blockTableStart
  | blockEnd
  | flowListStart
  | flowListEnd
  | flowTableStart
  | flowTableEnd
  /-- The comma between brackets or braces. -/
  | separator
  /-- The hyphen in front of an item of a block. -/
  | item
  | key
  | value
  | anchor (name : String)
  /-- The node of an anchor once more. -/
  | reference (name : String)
  | tag (t : Tag)
  /-- A text, which is plain if it is a word or several. -/
  | scalar (isPlain : Bool) (text : String)
deriving DecidableEq, Repr

/-- A token that may turn out to be a key, or to begin one. -/
structure PossibleKey where
  /-- The text cannot go on without a colon behind it. -/
  isRequired : Bool
  /-- How many tokens stand in front of it. -/
  index : Nat
  line : Nat
  column : Nat
  offset : Nat

/-- The column where a list or table begins; one that is not a block lies below a key or item and
bounds only what a single node may hold. -/
structure Indent where
  column : Nat
  isBlock : Bool

/-- The lexer between two tokens. -/
structure Lexer where
  cursor : Cursor
  tokens : Array Token
  /-- The column of the last token if that is an anchor or a tag. -/
  propertyColumn : Option Nat
  /-- A key may begin here. -/
  keyAllowed : Bool
  /-- What may be a key inside the innermost brackets. -/
  key? : Option PossibleKey
  /-- The indents that are open, the innermost first. -/
  indents : List Indent
  /-- Which of the open brackets make lists, and what may be a key in front of them. -/
  flow : List (Bool × Option PossibleKey)
  /-- Where a text in quotes, a list or a table that may be a key of JSON has ended. -/
  jsonEnd : Nat

namespace Lexer

def ofText (s : String) : Lexer := ⟨Cursor.ofText s, #[], none, true, none, [], [], 0⟩

/-- The innermost indent, and -1 outside all. -/
def indent (s : Lexer) : Int := (s.indents.head?.map fun i => (i.column : Int)).getD (-1)

def push (t : Token) (s : Lexer) : Lexer :=
  { s with tokens := s.tokens.push t, propertyColumn := none }

/-- Adds a token in front of the one at `index`. -/
def insert (index : Nat) (t : Token) (s : Lexer) : Lexer :=
  { s with tokens := s.tokens.insertIdxIfInBounds index t }

/-- Ends the blocks that are indented by more than `column`. -/
def endBlocks (column : Int) (s : Lexer) : Lexer :=
  if !s.flow.isEmpty then s
  else
    let isInner := fun (i : Indent) => column < i.column
    let ended := (s.indents.takeWhile isInner).filter (·.isBlock)
    { ended.foldl (fun s _ => s.push .blockEnd) s with indents := s.indents.dropWhile isInner }

/-- Leaves the indents that are not blocks. -/
def leaveOpenIndents (s : Lexer) : Lexer :=
  { s with indents := s.indents.dropWhile (!·.isBlock) }

/-- Begins a block at `column` if it is indented by more than the present one, and puts its token in
front of the one at `index`. -/
def beginBlock (column index : Nat) (t : Token) (s : Lexer) : Lexer :=
  if !s.flow.isEmpty then s
  else
    let s := match s.indents with
      | i :: is => if !i.isBlock && i.column ≤ column then { s with indents := is } else s
      | [] => s
    if s.indent < (column : Int) then
      let s := { s with indents := ⟨column, true⟩ :: s.indents }
      if index < s.tokens.size then s.insert index t else s.push t
    else s

def indentOne (s : Lexer) : Lexer :=
  match s.indents with
  | ⟨column, true⟩ :: _ =>
    if s.flow.isEmpty then { s with indents := ⟨column + 1, false⟩ :: s.indents } else s
  | _ => s

/-- The next token may be a key where keys are allowed. -/
def saveKey (s : Lexer) : Lexer :=
  if !s.keyAllowed then s
  else
    let isRequired := s.flow.isEmpty && s.indents.head?.any fun i =>
      i.isBlock && i.column = s.cursor.column
    let c := s.cursor
    { s with key? := some ⟨isRequired, s.tokens.size, c.line, c.column, c.offset⟩ }

/-- What may have been a key is none. -/
def forgetKey? (s : Lexer) : Option Lexer :=
  if s.key?.any (·.isRequired) then none else some { s with key? := none }

/-- Outside brackets a key lies on one line with its colon, which is at most 1024 characters behind
its beginning. -/
def forgetPassedKey? (s : Lexer) : Option Lexer :=
  let isPassed := s.flow.isEmpty && s.key?.any fun k =>
    k.line < s.cursor.line || k.offset + 1024 < s.cursor.offset
  if isPassed then s.forgetKey? else some s

def toToken? (s : Lexer) : Option Lexer :=
  (s.cursor.toToken? s.indent (s.cursor.rest.length + 1) false).map fun p =>
    { s with cursor := p.2, keyAllowed := s.keyAllowed || (p.1 && s.flow.isEmpty) }

/-- Goes on behind `n` characters and the gap that follows. -/
def skipMark? (n : Nat) (s : Lexer) : Option Lexer :=
  (s.cursor.past n).afterGap?.map fun c => { s with cursor := c }

/-- A directive, behind which its line ends. -/
def directive? (s : Lexer) : Option Lexer := do
  let s ← (s.endBlocks (-1)).forgetKey?
  let (d, c) ← readDirective? (s.cursor.past 1)
  let c ← c.afterGap?
  if !c.atLineEnd then none
  else
    let c := if c.rest.isEmpty then c else c.nextLine
    some ({ s with cursor := c, keyAllowed := false }.push (.directive d))

def documentMark? (t : Token) (s : Lexer) : Option Lexer := do
  let s ← (s.endBlocks (-1)).forgetKey?
  some ({ s with cursor := s.cursor.past 3, keyAllowed := false }.push t)

/-- The end of a document, behind which its line ends. -/
def documentEnd? (s : Lexer) : Option Lexer := do
  let s ← (← s.documentMark? .documentEnd).skipMark? 0
  if s.cursor.atLineEnd then some s else none

/-- An opening bracket or brace. At most 255 may be open. -/
def openFlow? (isList : Bool) (s : Lexer) : Option Lexer := do
  if 255 ≤ s.flow.length then none
  else
    let s := s.saveKey.indentOne
    let s := { s with flow := (isList, s.key?) :: s.flow, key? := none, keyAllowed := true }
    some ((← s.skipMark? 1).push (if isList then .flowListStart else .flowTableStart))

def closeFlow? (t : Token) (s : Lexer) : Option Lexer :=
  match s.flow with
  | [] => none
  | (_, key?) :: flow => do
    let s ← (← s.forgetKey?).skipMark? 1
    let jsonEnd := if flow.isEmpty then s.jsonEnd else s.cursor.offset
    some ({ s with flow, key?, jsonEnd, keyAllowed := false }.push t)

def separator? (s : Lexer) : Option Lexer := do
  let s ← (← s.forgetKey?).skipMark? 1
  some ({ s with keyAllowed := true }.push .separator)

/-- The hyphen of an item, which begins a list if it is indented by more than the present block.
Tabs do not indent a list in a list. -/
def item? (s : Lexer) : Option Lexer := do
  let column := s.cursor.column
  if !s.flow.isEmpty || !s.keyAllowed then none
  else if column = 0 && s.propertyColumn = some 0 && -1 < s.indent then none
  else
    let gap := (s.cursor.past 1).run isBlank
    let s ← (s.beginBlock column s.tokens.size .blockListStart).skipMark? 1
    let c := s.cursor
    if gap.contains '\t' && c.rest.head? = some '-' && c.isGapAt 1 then none
    else
      let s := if c.rest.head?.any fun d => d = '\n' || isMark d then s.indentOne else s
      some ({ ← s.forgetKey? with keyAllowed := true }.push .item)

/-- The cursor behind spaces, line ends and comments. `fuel` bounds the number of characters. -/
def afterSpaces : Nat → Cursor → Cursor
  | 0, c => c
  | fuel + 1, c =>
    match c.rest with
    | ' ' :: _ => afterSpaces fuel (c.moved 1)
    | '\n' :: _ => afterSpaces fuel c.nextLine
    | '#' :: _ => afterSpaces fuel (c.afterRun (· ≠ '\n'))
    | _ => c

/-- The question mark of a key, which begins a table if it is indented by more than the present
block. Spaces or line ends follow. -/
def explicitKey? (s : Lexer) : Option Lexer := do
  let inBlock := s.flow.isEmpty
  if inBlock && !s.keyAllowed then none
  else
    let s ← (s.beginBlock s.cursor.column s.tokens.size .blockTableStart).forgetKey?
    let start := s.cursor.past 1
    let cursor := afterSpaces (start.rest.length + 1) start
    if cursor.offset = start.offset || cursor.rest.head? = some '\t' then none
    else some ({ s with cursor, keyAllowed := inBlock }.push .key)

/-- The colon of a value. What may have been a key in front of it is one, and begins a table if it
is indented by more than the present block. -/
def value? (s : Lexer) : Option Lexer := do
  let column := s.cursor.column
  let inBlock := s.flow.isEmpty
  let start := s.cursor.past 1
  let cursor ← if start.rest.head? = some '\t' then start.afterGap? else some start
  let isTight := !(start.run isBlank).contains ' ' && start.rest.head? = some '\t' &&
    cursor.rest.head?.any isWordChar
  if isTight then none
  else
    match s.key? with
    | some k =>
      if s.flow.head?.any (·.1) && k.line < s.cursor.line then none
      else
        let s := { s with cursor }.insert k.index .key
        let s := s.beginBlock k.column k.index .blockTableStart
        some ({ s.indentOne with key? := none, keyAllowed := false }.push .value)
    | none =>
      if inBlock && !s.keyAllowed then none
      else
        let s := ({ s with cursor }.beginBlock column s.tokens.size .blockTableStart).indentOne
        some ({ s with keyAllowed := inBlock }.push .value)

/-- The colon of a value inside brackets. Behind a key that is not one of JSON, a list or table does
not follow directly. -/
def flowValue? (s : Lexer) : Option Lexer :=
  let next := s.cursor.rest.drop 1
  if s.cursor.offset ≠ s.jsonEnd && (next.head? = some '[' || next.head? = some '\x7b') then none
  else s.value?

/-- A property of the node that follows, which may begin a key. -/
def property (t : Token) (c : Cursor) (s : Lexer) : Lexer :=
  let s := s.saveKey
  { { s with cursor := c, keyAllowed := false }.push t with
    propertyColumn := some s.cursor.column }

/-- The name of an anchor behind its mark. -/
def anchor? (t : String → Token) (s : Lexer) : Option Lexer :=
  let start := s.cursor.past 1
  let name := start.run isAnchorChar
  if name.isEmpty then none
  else
    let t := t (String.ofList name)
    let next := s.property t (start.afterRun isAnchorChar)
    some (if t matches .reference _ then { next with propertyColumn := none } else next)

/-- A tag, behind which there is a gap or, between brackets, a mark. -/
def tag? (s : Lexer) : Option Lexer := do
  let (t, c) ← readTag? s.cursor
  if c.isGapAt 0 || (!s.flow.isEmpty && c.rest.head?.any isMark) then
    some (s.property (.tag t) c)
  else none

def block? (isLiteral : Bool) (s : Lexer) : Option Lexer := do
  let s := s.saveKey.leaveOpenIndents
  let (text, cursor) ← readBlock? isLiteral s.indent (s.cursor.past 1)
  some ({ s with cursor, keyAllowed := true }.push (.scalar false (String.ofList text)))

/-- A text in quotes, behind which the line ends or a mark or colon follows. -/
def quoted? (quote : Char) (s : Lexer) : Option Lexer := do
  let line := s.cursor.line
  let inBlock := s.flow.isEmpty
  let s := s.saveKey
  let fuel := s.cursor.rest.length + 1
  let (text, c) ← readQuoted? quote s.indent fuel (s.cursor.past 1)
  let c ← c.afterGap?
  let fits := c.rest.head?.all fun d => d = '\n' ||
    (if inBlock then d = ':' && c.line = line else d = ':' || d = ',' || d = '\x7d' || d = ']')
  if !fits then none
  else
    let s ← { s with cursor := c, keyAllowed := false }.toToken?
    let s := { s with jsonEnd := s.cursor.offset }
    some (s.push (.scalar false (String.ofList text)))

def words? (s : Lexer) : Option Lexer := do
  let inFlow := !s.flow.isEmpty
  let column := s.cursor.column
  let s := s.saveKey.leaveOpenIndents
  let indent := s.indent + 1
  if inFlow && (column : Int) < indent then none
  else
    let (text, cursor) ← readWords? inFlow indent (s.cursor.rest.length + 1) {} s.cursor
    some ({ s with cursor, keyAllowed := cursor.inIndent }.push (.scalar true (String.ofList text)))

/-- The token in front. -/
def token? (s : Lexer) : Option Lexer :=
  match s.cursor.rest with
  | [] => none
  | c :: cs =>
    let inFlow := !s.flow.isEmpty
    let isApart := cs.head?.all isGap
    if s.cursor.column = 0 && c = '%' then s.directive?
    else if s.cursor.isAtStart then s.documentMark? .documentStart
    else if s.cursor.isAtEnd then s.documentEnd?
    else if (s.cursor.column : Int) < s.indent then none
    else if c = '[' then s.openFlow? true
    else if c = '\x7b' then s.openFlow? false
    else if c = ']' then s.closeFlow? .flowListEnd
    else if c = '\x7d' then s.closeFlow? .flowTableEnd
    else if c = ',' then s.separator?
    else if c = '-' && isApart then s.item?
    else if c = '?' && isApart then s.explicitKey?
    else if c = ':' && !inFlow && isApart then s.value?
    else if c = ':' && inFlow &&
        (isApart || cs.head?.any isMark || s.cursor.offset = s.jsonEnd) then s.flowValue?
    else if c = '*' then s.anchor? .reference
    else if c = '&' then s.anchor? .anchor
    else if c = '!' then s.tag?
    else if c = '|' && !inFlow then s.block? true
    else if c = '>' && !inFlow then s.block? false
    else if c = '\'' || c = '"' then s.quoted? c
    else if c = '%' || c = '@' || c = '\x60' then none
    else s.words?

/-- All tokens from here on. `fuel` bounds the number of characters. -/
def scan? : Nat → Lexer → Option (Array Token)
  | 0, _ => none
  | fuel + 1, s => do
    let s ← (← s.toToken?).forgetPassedKey?
    let s := s.endBlocks s.cursor.column
    if s.cursor.rest.isEmpty then (s.endBlocks (-1)).forgetKey?.map (·.tokens)
    else scan? fuel (← s.token?)

end Lexer

def tokens? (text : String) : Option (List Token) :=
  (Lexer.scan? (text.length + 2) (Lexer.ofText text)).map (·.toList)

end PagedQuery.Yaml
