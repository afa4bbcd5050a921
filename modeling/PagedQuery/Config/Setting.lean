import PagedQuery.Binary64.Decimal
import PagedQuery.Binary64.Shortest
import PagedQuery.Config.KeyPath

/-!
Settings as trees: what the sources of configuration hold before it is read into types. A later
source is laid over an earlier one key by key; keys do not distinguish case.
-/

namespace PagedQuery

/-- A setting: a single value, nothing, a list of settings, or a table of them by name. -/
inductive Setting where
  | null
  | bool (b : Bool)
  | int (n : Int)
  | float (x : Binary64)
  | text (s : String)
  | list (items : List Setting)
  | table (entries : List (String × Setting))
deriving Inhabited, Repr

namespace Setting

/-- The table without entries. -/
def empty : Setting := table []

/-- The entries of a table; anything else has none. -/
def entries : Setting → List (String × Setting)
  | table es => es
  | _ => []

/-- The items of a list; anything else has none. -/
def items : Setting → List Setting
  | list ss => ss
  | _ => []

def get? (s : Setting) (key : String) : Option Setting :=
  (s.entries.find? fun e => e.1 == key).map (·.2)

/-- The entries with `value` under `key`: in place of the present one, or at the end. -/
def putEntry (key : String) (value : Setting) :
    List (String × Setting) → List (String × Setting)
  | [] => [(key, value)]
  | e :: es => if e.1 == key then (key, value) :: es else e :: putEntry key value es

/-- Puts `value` under `key`; what is not a table becomes one first. -/
def put (s : Setting) (key : String) (value : Setting) : Setting :=
  table (putEntry key value s.entries)

mutual
/-- A setting laid over what is there: a table adds its entries one by one, anything else takes the
place. -/
def overlay (old : Option Setting) : Setting → Setting
  | table es => overlayEntries (old.getD empty) es
  | s => s

def overlayEntries (target : Setting) : List (String × Setting) → Setting
  | [] => target
  | (key, s) :: rest =>
    overlayEntries (target.put key.toLower (overlay (target.get? key.toLower) s)) rest
end

/-- The place of an item in a list of `length` items, which may lie behind its end. -/
def place? (length : Nat) (index : Int) : Option Nat :=
  if 0 ≤ index then some index.toNat
  else if -index ≤ length then some (length + index).toNat
  else none

/-- The items with `value` at a place; a list that ends before it is filled up with nothing. -/
def putItem (place : Nat) (value : Setting) (ss : List Setting) : List Setting :=
  (ss ++ List.replicate (place + 1 - ss.length) null).set place value

/-- A setting laid over what is at the end of a path. The tables and lists on the way are made where
something else or nothing is, and an item takes the place of what is there. -/
def assign (root : Setting) : List KeyStep → Setting → Setting
  | [], s => overlay (some root) s
  | [.key key], s => root.put key.toLower (overlay (root.get? key.toLower) s)
  | [.item index], s =>
    match place? root.items.length index with
    | some place => list (putItem place s root.items)
    | none => root
  | .key key :: step :: path, s =>
    root.put key.toLower (assign ((root.get? key.toLower).getD null) (step :: path) s)
  | .item index :: step :: path, s =>
    match place? root.items.length index with
    | some place =>
      let inner := assign (root.items[place]?.getD null) (step :: path) s
      list (putItem place inner root.items)
    | none => root

def layer (root : Setting) (source : List (String × Setting)) : Setting :=
  source.foldl (fun s e => s.assign (KeyStep.path e.1) e.2) root

def field? (s : Setting) (place : Nat) (name : String) : Option Setting :=
  match s with
  | list ss => ss[place]?
  | s => s.get? name

/-- The setting as text: nothing, lists and tables have none. -/
def asText? : Setting → Option String
  | bool b => some (toString b)
  | int n => some (toString n)
  | float x => some x.text
  | text s => some s
  | null | list _ | table _ => none

/-- The number that a text stands for: a switch position, or digits with an optional plus sign. -/
def natOfText? (s : String) : Option Nat :=
  if ["true", "on", "yes"].contains s.toLower then some 1
  else if ["false", "off", "no"].contains s.toLower then some 0
  else
    match s.toList with
    | '+' :: ds => Text.readDigits? ds
    | ds => Text.readDigits? ds

/-- The setting as a number from 0 to `limit`, where `limit` fits 64 bits. A floating
number is rounded to 64 bits before the limit is checked. -/
def asNat? (limit : Nat) (s : Setting) : Option Nat :=
  let n := match s with
    | bool b => some (if b then 1 else 0)
    | int n => if 0 ≤ n then some n.toNat else none
    | float x => some (x.toNatSaturating (UInt64.size - 1))
    | text s => natOfText? s
    | null | list _ | table _ => none
  n.filter (· ≤ limit)

end Setting

end PagedQuery
