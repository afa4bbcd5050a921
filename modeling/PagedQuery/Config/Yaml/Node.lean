import PagedQuery.Config.Setting
import PagedQuery.Config.Yaml.Property

/-!
The values of YAML nodes: what words mean with and without tags, and how keys and values make
tables.
-/

namespace PagedQuery.Yaml

/-- What a node holds: a setting, or none where a word does not fit its tag. -/
abbrev Node := Option Setting

def coreHandle : String := "tag:yaml.org,2002:"

/-- What the tag of a node says about its type. -/
inductive Kind where
  | untagged
  | core (name : String)
  | other
deriving DecidableEq, Repr

/-- The kind that a tag stands for where at most one handle is declared, with its prefix. A handle
between two exclamation marks must be declared, except the one of the common types. -/
def Tag.kind? (declared : Option (String × String)) (t : Tag) : Option Kind := do
  let handle ← match declared.filter fun d => d.1 = t.handle with
    | some d => some d.2
    | none =>
      if t.handle = "!!" then some coreHandle
      else if isHandle t.handle.toList then none
      else some t.handle
  some (if handle = coreHandle then .core t.suffix else .other)

/-- A whole number of 64 bits with an optional sign. -/
def integer? (cs : List Char) : Option Int := (Text.readInteger? cs).filter Text.fitsInt64

/-- A whole number of 64 bits with an optional sign, written in a base. -/
def integerIn? (base : Nat) (cs : List Char) : Option Int := do
  let (negative, ds) := Text.splitSign cs
  let n ← if ds.isEmpty then none else Text.valueIn? base ds
  let n : Int := n
  (some (if negative then -n else n)).filter Text.fitsInt64

/-- A whole number behind the mark of its base or a sign. -/
def markedInteger? : List Char → Option Int
  | '0' :: 'x' :: cs => integerIn? 16 cs
  | '0' :: 'o' :: cs => integerIn? 8 cs
  | '+' :: cs => integer? cs
  | _ => none

/-- The word is a floating number: it has a digit, or is one of the words for an infinite number and
for none. -/
def isReal (cs : List Char) : Bool :=
  let words := [".inf", ".Inf", ".INF", "+.inf", "+.Inf", "+.INF", "-.inf", "-.Inf", "-.INF",
    ".nan", "NaN", ".NAN"]
  words.contains (String.ofList cs) || (cs.any Char.isDigit && (Binary64.ofText? cs).isSome)

/-- A floating number. The words for infinite numbers have no value here. -/
def real? (cs : List Char) : Option Setting := (Binary64.ofText? cs).map .float

/-- What a word without a tag means. -/
def plainValue? (text : String) : Option Setting :=
  let cs := text.toList
  match markedInteger? cs with
  | some n => some (.int n)
  | none =>
    if text = "~" || text = "null" then some .null
    else if text = "true" then some (.bool true)
    else if text = "false" then some (.bool false)
    else
      match integer? cs with
      | some n => some (.int n)
      | none => if isReal cs then real? cs else some (.text text)

def coreValue? (name text : String) : Option Node :=
  let cs := text.toList
  match name with
  | "bool" =>
    some (if text = "true" then some (.bool true)
      else if text = "false" then some (.bool false) else none)
  | "int" => some ((integer? cs).map .int)
  | "float" => if isReal cs then (real? cs).map some else some none
  | "null" => some (if text = "~" || text = "null" then some .null else none)
  | _ => some (some (.text text))

/-- What a text holds. Only plain words can be anything but texts. -/
def scalarNode? (kind : Kind) (isPlain : Bool) (text : String) : Option Node :=
  if !isPlain then some (some (.text text))
  else
    match kind with
    | .untagged => (plainValue? text).map some
    | .core name => coreValue? name text
    | .other => some (some (.text text))

/-- The keys of a table with their values, from keys and values in turn. A key that holds nothing is
passed over, and so is a last one without a value. -/
def pairs : List Node → List (Setting × Setting)
  | none :: nodes => pairs nodes
  | some key :: value :: nodes => (key, value.getD .null) :: pairs nodes
  | [some _] | [] => []

/-- A key of a table: a text or a whole number, and whether it is a number. -/
def keyOf? : Setting → Option (Bool × String)
  | .text s => some (false, s)
  | .int n => some (true, toString n)
  | _ => none

/-- The entries of a table added to those in front. No key occurs among `seen` or twice; a number is
another key than the text of its digits, but takes the same place. -/
def addEntries? : List (Bool × String) → List (String × Setting) → List (Setting × Setting) →
    Option (List (String × Setting))
  | _, es, [] => some es
  | seen, es, (key, value) :: rest => do
    let key ← keyOf? key
    if seen.contains key then none
    else addEntries? (key :: seen) (Setting.putEntry key.2 value es) rest

def table? (nodes : List Node) : Option Node :=
  (addEntries? [] [] (pairs nodes)).map fun es => some (.table es)

def listNode (nodes : List Node) : Node := some (.list (nodes.map fun n => n.getD .null))

end PagedQuery.Yaml
