import PagedQuery.Config.Setting

/-!
A TOML document in the making: values and tables under keys, and what may still be added to them. No
key is defined twice.
-/

namespace PagedQuery.Toml

/-- How a table came to be, which decides what may still be added to it. -/
inductive Origin where
  /-- It has a header of its own. -/
  | header
  /-- It is on the way to a table with a header. -/
  | passed
  /-- It is on the way of a dotted key. -/
  | dotted
deriving DecidableEq, Repr

/-- What a key has so far. -/
inductive Node where
  | value (s : Setting)
  | table (origin : Origin) (entries : List (String × Node))
  /-- A list of tables with a header each: the finished ones, and the last one. -/
  | tables (finished : List Setting) (last : List (String × Node))
deriving Inhabited

def find? (key : String) (entries : List (String × Node)) : Option Node :=
  (entries.find? fun e => e.1 == key).map (·.2)

/-- The entries with `node` under `key`: in place of the present one, or at the end. -/
def put (key : String) (node : Node) : List (String × Node) → List (String × Node)
  | [] => [(key, node)]
  | e :: es => if e.1 == key then (key, node) :: es else e :: put key node es

/-- Defines a dotted key. The tables on its way must not have headers, and the last of them must
come from dotted keys only; a list of tables on the way stands for its last one. -/
def define? : List String → Setting → List (String × Node) → Option (List (String × Node))
  | [], _, _ => none
  | [key], v, es => if (find? key es).isSome then none else some (es ++ [(key, .value v)])
  | key :: next :: path, v, es =>
    match find? key es with
    | none => (define? (next :: path) v []).map fun inner => es ++ [(key, .table .dotted inner)]
    | some (.table origin inner) =>
      if origin = .header || (path.isEmpty && origin ≠ .dotted) then none
      else (define? (next :: path) v inner).map fun inner => put key (.table origin inner) es
    | some (.tables finished last) =>
      if path.isEmpty then none
      else (define? (next :: path) v last).map fun last => put key (.tables finished last) es
    | some (.value _) => none

mutual
def Node.setting : Node → Setting
  | .value s => s
  | .table _ es => .table (settings es)
  | .tables finished last => .list (finished ++ [.table (settings last)])

def settings : List (String × Node) → List (String × Setting)
  | [] => []
  | (key, node) :: rest => (key, node.setting) :: settings rest
end

/-- Changes the entries that the keys before the last one of a path lead to, by `change` and that
last key. The tables on the way are made where nothing is, and a list of tables stands for its last
one. -/
def changeAt? (change : String → List (String × Node) → Option (List (String × Node))) :
    List String → List (String × Node) → Option (List (String × Node))
  | [], _ => none
  | [key], es => change key es
  | key :: next :: path, es =>
    match find? key es with
    | none =>
      (changeAt? change (next :: path) []).map fun inner => es ++ [(key, .table .passed inner)]
    | some (.table origin inner) =>
      (changeAt? change (next :: path) inner).map fun inner => put key (.table origin inner) es
    | some (.tables finished last) =>
      (changeAt? change (next :: path) last).map fun last => put key (.tables finished last) es
    | some (.value _) => none

/-- Opens a table under a header: it must not have one yet, nor come from dotted keys. -/
def openTable? (path : List String) (es : List (String × Node)) : Option (List (String × Node)) :=
  changeAt? (fun key es =>
    match find? key es with
    | none => some (es ++ [(key, .table .header [])])
    | some (.table .passed inner) => some (put key (.table .header inner) es)
    | some _ => none) path es

/-- Opens one more table in the list of tables under a header. -/
def openItem? (path : List String) (es : List (String × Node)) : Option (List (String × Node)) :=
  changeAt? (fun key es =>
    match find? key es with
    | none => some (es ++ [(key, .tables [] [])])
    | some (.tables finished last) =>
      some (put key (.tables (finished ++ [.table (settings last)]) []) es)
    | some _ => none) path es

/-- Defines a dotted key in the table at the end of a path of headers. -/
def defineIn? : List String → List String → Setting → List (String × Node) →
    Option (List (String × Node))
  | [], key, v, es => define? key v es
  | head :: path, key, v, es =>
    match find? head es with
    | some (.table origin inner) =>
      (defineIn? path key v inner).map fun inner => put head (.table origin inner) es
    | some (.tables finished last) =>
      (defineIn? path key v last).map fun last => put head (.tables finished last) es
    | _ => none

end PagedQuery.Toml
