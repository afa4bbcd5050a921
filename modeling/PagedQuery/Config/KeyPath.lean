import PagedQuery.Text.Blank
import PagedQuery.Text.Digits
import PagedQuery.Text.Split

/-!
Paths to settings, such as `database.url` and `hosts[0].port`: keys between dots, each with
positions in brackets behind it.
-/

namespace PagedQuery

inductive KeyStep where
  /-- To the entry of a table. -/
  | key (name : String)
  /-- To the item of a list; negative numbers count from its end. -/
  | item (index : Int)
deriving DecidableEq, Repr

namespace KeyStep

def isKeyChar (c : Char) : Bool := c.isAlphanum || c = ' ' || c = '_' || c = '-'

/-- The characters without spaces and tabs at either end. -/
def unspaced (cs : List Char) : List Char :=
  let isSpace (c : Char) : Bool := c = ' ' || c = '\t'
  ((cs.dropWhile isSpace).reverse.dropWhile isSpace).reverse

/-- The number of an item: digits with an optional minus sign, within 64 bits. -/
def readIndex? (cs : List Char) : Option Int :=
  let n := match cs with
    | '-' :: ds => (Text.readDigits? ds).map fun n => -(n : Int)
    | ds => (Text.readDigits? ds).map fun n => (n : Int)
  n.filter Text.fitsInt64

/-- The item whose number stands between an opening bracket, already read, and a closing one at the
end. -/
def readItem? (cs : List Char) : Option KeyStep :=
  if cs.getLast? = some ']' then (readIndex? (unspaced cs.dropLast)).map item else none

/-- A key and the items behind it. -/
def readPart? (cs : List Char) : Option (List KeyStep) :=
  match Text.split '[' cs with
  | name :: items =>
    if name.isEmpty || !name.all isKeyChar then none
    else (items.mapM readItem?).map (key (String.ofList name) :: ·)
  | [] => none

/-- The steps of a path. A text that is no path is a single key. -/
def path (s : String) : List KeyStep :=
  match (Text.split '.' s.toList).mapM readPart? with
  | some parts => parts.flatten
  | none => [key s]

end KeyStep

end PagedQuery
