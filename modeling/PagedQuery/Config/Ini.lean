import PagedQuery.Config.Setting

/-!
Documents in INI: keys with values up to the ends of their lines, below the names of sections in
brackets. All values are texts.
-/

namespace PagedQuery.Ini

/-- What an escape stands for, by the letter behind its backslash, and the rest. Numbers take four
places, of which the first may be a plus sign. An escaped line end stands for nothing, and other
characters for themselves. -/
def escaped? : List Char → Option (List Char × List Char)
  | [] => none
  | '0' :: cs => some (['\x00'], cs)
  | 'a' :: cs => some (['\x07'], cs)
  | 'b' :: cs => some (['\x08'], cs)
  | 't' :: cs => some (['\t'], cs)
  | 'r' :: cs => some (['\r'], cs)
  | 'n' :: cs => some (['\n'], cs)
  | '\n' :: cs => some ([], cs)
  | 'x' :: '+' :: cs => (Text.readNumbered? 3 cs).map fun p => ([p.1], p.2)
  | 'x' :: cs => (Text.readNumbered? 4 cs).map fun p => ([p.1], p.2)
  | c :: cs => some ([c], cs)

/-- A text in front with its escapes resolved, up to a character that ends it, and the rest from
that one on. The end of the document ends it only if it `mayEnd`; `fuel` bounds the number of
characters. -/
def readText? (ends : Char → Bool) (mayEnd : Bool) :
    Nat → List Char → Option (List Char × List Char)
  | _, [] => if mayEnd then some ([], []) else none
  | 0, _ => none
  | fuel + 1, c :: cs =>
    if ends c then some ([], c :: cs)
    else if c = '\\' then do
      let (piece, rest) ← escaped? cs
      let (text, rest) ← readText? ends mayEnd fuel rest
      some (piece ++ text, rest)
    else (readText? ends mayEnd fuel cs).map fun p => (c :: p.1, p.2)

def isLineEnd (c : Char) : Bool := c = '\n' || c = '\r'

/-- A value up to the end of its line, and the rest. A text in quotes may stand in front of it. -/
def readValue? (cs : List Char) : Option (List Char × List Char) := do
  let toLineEnd := readText? isLineEnd true
  let (text, rest) ← match cs with
    | c :: inner =>
      if c = '"' || c = '\'' then do
        let (quoted, rest) ← readText? (· = c) false cs.length inner
        let (text, rest) ← toLineEnd rest.length (rest.drop 1)
        some (quoted ++ text, rest)
      else toLineEnd cs.length cs
    | [] => some ([], [])
  some (Text.trimChars text, rest)

/-- The settings with a key below the name of a section, or below none. -/
def withKey (root : Setting) (name? : Option String) (key : String) (value : Setting) : Setting :=
  match name? with
  | none => root.put key value
  | some name => root.put name (((root.get? name).getD .empty).put key value)

/-- The settings of the rest of a document below the name of a section, laid over those so far.
`atStart` tells that a line begins here; only there comments may begin. `fuel` bounds the number of
characters. -/
def entries? : Nat → Bool → Option String → Setting → List Char → Option Setting
  | 0, _, _, _, _ => none
  | fuel + 1, atStart, name?, root, cs =>
    let gap := cs.takeWhile Text.isBlank
    let atStart := if gap.isEmpty then atStart else gap.getLast? = some '\n'
    match cs.dropWhile Text.isBlank with
    | [] => some root
    | '[' :: cs => do
      let (name, rest) ← readText? (· = ']') false cs.length cs
      let name := String.ofList (Text.trimChars name)
      entries? fuel false (some name) (root.put name .empty) (rest.drop 1)
    | c :: cs =>
      if c = ';' || c = '#' then
        if atStart then entries? fuel false name? root (cs.dropWhile (· ≠ '\n')) else none
      else do
        let (key, rest) ← readText? (fun c => c = '=' || c = ':') false (cs.length + 1) (c :: cs)
        let key := String.ofList (Text.trimChars key)
        let behind := (rest.drop 1).dropWhile fun c => Text.isBlank c && !isLineEnd c
        let (value, rest) ← readValue? behind
        if key.isEmpty then none
        else
          entries? fuel false name? (withKey root name? key (.text (String.ofList value))) rest

def parse? (s : String) : Option (List (String × Setting)) :=
  (entries? (s.length + 1) true none .empty s.toList).map Setting.entries

end PagedQuery.Ini
