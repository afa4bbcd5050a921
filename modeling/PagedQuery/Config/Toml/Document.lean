import PagedQuery.Config.Toml.Instant
import PagedQuery.Config.Toml.Scalar
import PagedQuery.Config.Toml.Text
import PagedQuery.Config.Toml.Tree

/-!
Documents in TOML: keys with values below the headers of tables and of lists of tables.
-/

namespace PagedQuery.Toml

def isBare (c : Char) : Bool := isNameChar c || c = '+' || c = '.' || c = ':'

/-- A value without brackets in front, and the rest. -/
def readSimple? (cs : List Char) : Option (Setting × List Char) :=
  if cs.head? = some '"' || cs.head? = some '\'' then
    (readQuoted? cs).map fun p => (.text (String.ofList p.1), p.2)
  else
    match readInstant? cs with
    | some (text, rest) => some (.text text, rest)
    | none => (scalar? (cs.takeWhile isBare)).map fun v => (v, cs.dropWhile isBare)

/-- The characters without gaps, line ends and comments in front. -/
def skipAll? (cs : List Char) : Option (List Char) := skipLines? (cs.length + 1) cs

mutual
/-- A value in front, and the rest; `fuel` bounds the number of characters, and `room` how many
arrays and inline tables may lie one inside the other. -/
def value? : Nat → Nat → List Char → Option (Setting × List Char)
  | 0, _, _ => none
  | fuel + 1, room, cs =>
    match cs, room with
    | '[' :: cs, room + 1 => do
      match ← skipAll? cs with
      | ']' :: rest => some (.list [], rest)
      | cs => (items? fuel room cs).map fun p => (.list p.1, p.2)
    | '\x7b' :: cs, room + 1 =>
      match skipGap cs with
      | '\x7d' :: rest => some (.table [], rest)
      | cs => (fields? fuel room [] cs).map fun p => (.table (settings p.1), p.2)
    | cs, _ => readSimple? cs

/-- Values between commas up to a closing bracket, which a comma may precede, and the rest. -/
def items? : Nat → Nat → List Char → Option (List Setting × List Char)
  | 0, _, _ => none
  | fuel + 1, room, cs => do
    let (v, rest) ← value? fuel room cs
    match ← skipAll? rest with
    | ']' :: rest => some ([v], rest)
    | ',' :: rest =>
      match ← skipAll? rest with
      | ']' :: rest => some ([v], rest)
      | cs => (items? fuel room cs).map fun p => (v :: p.1, p.2)
    | _ => none

/-- Keys with values between commas up to a closing brace, behind those before, and the rest. -/
def fields? : Nat → Nat → List (String × Node) → List Char →
    Option (List (String × Node) × List Char)
  | 0, _, _, _ => none
  | fuel + 1, room, es, cs => do
    let (path, rest) ← readKey? cs
    let (v, rest) ← value? fuel room (skipGap (← afterMark? '=' rest))
    let es ← define? path v es
    match skipGap rest with
    | '\x7d' :: rest => some (es, rest)
    | ',' :: rest => fields? fuel room es rest
    | _ => none
end

/-- The rest of a document below a header, after the entries so far; `fuel` bounds the number of
lines. -/
def sections? : Nat → List String → List (String × Node) → List Char →
    Option (List (String × Node))
  | 0, _, _, _ => none
  | fuel + 1, header, es, cs => do
    match ← skipAll? cs with
    | [] => some es
    | '[' :: '[' :: cs =>
      let (path, rest) ← readKey? cs
      let rest ← afterLine? (← afterMark? ']' (← afterMark? ']' rest))
      sections? fuel path (← openItem? path es) rest
    | '[' :: cs =>
      let (path, rest) ← readKey? cs
      let rest ← afterLine? (← afterMark? ']' rest)
      sections? fuel path (← openTable? path es) rest
    | cs =>
      let (path, rest) ← readKey? cs
      let value := skipGap (← afterMark? '=' rest)
      let (v, rest) ← value? value.length nestingLimit value
      sections? fuel header (← defineIn? header path v es) (← afterLine? rest)

def parse? (s : String) : Option (List (String × Setting)) :=
  let cs := plainLines (withoutMark s.toList)
  (sections? (cs.length + 1) [] [] cs).map settings

end PagedQuery.Toml
