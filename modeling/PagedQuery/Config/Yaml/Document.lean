import PagedQuery.Config.Yaml.Node
import PagedQuery.Config.Yaml.Token

/-!
Documents in YAML: nodes made of tokens. A file holds one document at most.
-/

namespace PagedQuery.Yaml

/-- Where a node stands, which decides what it may begin with. -/
inductive Place where
  /-- Between brackets or braces. -/
  | flow
  /-- In a block. -/
  | block
  /-- Beside a key of a block, where the items of a list need no indent. -/
  | besideKey
deriving DecidableEq, Repr

/-- The reader between two nodes. -/
structure Reader where
  /-- The tokens that follow. -/
  tokens : List Token
  /-- The handle of tags that is declared, with its prefix. -/
  declared : Option (String × String)
  /-- The anchors by name, the latest first; each has a number. -/
  anchors : List (String × Nat)
  /-- The nodes of the anchors that are complete, by number. -/
  nodes : List (Nat × Node)

namespace Reader

/-- The node of an anchor; one that is not complete holds nothing. -/
def node? (name : String) (r : Reader) : Option Node :=
  (r.anchors.lookup name).map fun i => (r.nodes.lookup i).getD none

def addAnchor (name : String) (r : Reader) : Reader :=
  { r with anchors := (name, r.anchors.length) :: r.anchors }

/-- What stands in front of a node: an anchor and a tag in any order, of which both may be missing.
The number of the anchor, the kind of the node, and the reader behind them. -/
def properties? (r : Reader) : Option (Option Nat × Kind × Reader) :=
  let number := some r.anchors.length
  match r.tokens with
  | .anchor name :: .tag t :: ts => do
    let kind ← t.kind? r.declared
    some (number, kind, { r.addAnchor name with tokens := ts })
  | .tag t :: .anchor name :: ts => do
    let kind ← t.kind? r.declared
    some (number, kind, { r.addAnchor name with tokens := ts })
  | .anchor name :: ts => some (number, .untagged, { r.addAnchor name with tokens := ts })
  | .tag t :: ts => do some (none, ← t.kind? r.declared, { r with tokens := ts })
  | _ => some (none, .untagged, r)

def empty : Node := some .null

mutual
/-- A node in front. `fuel` bounds the number of tokens. -/
def readNode? : Nat → Place → Reader → Option (Node × Reader)
  | 0, _, _ => none
  | fuel + 1, place, r =>
    match r.tokens with
    | .reference name :: ts => (r.node? name).map fun node => (node, { r with tokens := ts })
    | start => do
      let (anchor, kind, r) ← r.properties?
      let hasProperties := r.tokens.length < start.length
      let (node, r) ← readContent? fuel place hasProperties kind r
      some (node, match anchor with
        | some i => { r with nodes := (i, node) :: r.nodes }
        | none => r)

/-- What a node holds behind its properties. -/
def readContent? : Nat → Place → Bool → Kind → Reader → Option (Node × Reader)
  | 0, _, _, _, _ => none
  | fuel + 1, place, hasProperties, kind, r =>
    let next := { r with tokens := r.tokens.drop 1 }
    let inBlock := place != .flow
    match r.tokens.head? with
    | some (.scalar isPlain text) => (scalarNode? kind isPlain text).map fun node => (node, next)
    | some .flowListStart => (readFlowList? fuel true next).map fun p => (listNode p.1, p.2)
    | some .flowTableStart => do
      let (nodes, r) ← readFlowTable? fuel true next
      some (← table? nodes, r)
    | token =>
      if token = some .item && place = .besideKey then
        (readItems? fuel false r).map fun p => (listNode p.1, p.2)
      else if token = some .blockListStart && inBlock then
        (readItems? fuel true next).map fun p => (listNode p.1, p.2)
      else if token = some .blockTableStart && inBlock then do
        let (nodes, r) ← readTable? fuel next
        some (← table? nodes, r)
      else if hasProperties then (scalarNode? kind true "").map fun node => (node, r)
      else none

/-- A node, or none of one of the tokens in front of which it is left out follows. -/
def readUnless? : Nat → List Token → Place → Reader → Option (Node × Reader)
  | 0, _, _, _ => none
  | fuel + 1, ends, place, r =>
    if r.tokens.head?.any ends.contains then some (empty, r) else readNode? fuel place r

def readItems? : Nat → Bool → Reader → Option (List Node × Reader)
  | 0, _, _ => none
  | fuel + 1, hasEnd, r =>
    let next := { r with tokens := r.tokens.drop 1 }
    if r.tokens.head? = some .item then do
      let ends := if hasEnd then [.item, .blockEnd] else [.item, .key, .value, .blockEnd]
      let (node, r) ← readUnless? fuel ends .block next
      let (nodes, r) ← readItems? fuel hasEnd r
      some (node :: nodes, r)
    else if !hasEnd then some ([], r)
    else if r.tokens.head? = some .blockEnd then some ([], next)
    else none

def readTable? : Nat → Reader → Option (List Node × Reader)
  | 0, _ => none
  | fuel + 1, r =>
    let next := { r with tokens := r.tokens.drop 1 }
    if r.tokens.head? = some .blockEnd then some ([], next)
    else do
      let ends := [.key, .value, .blockEnd]
      let (key, r) ←
        if r.tokens.head? = some .key then readUnless? fuel ends .besideKey next
        else if r.tokens.head? = some .value then some (empty, r)
        else none
      let (value, r) ←
        if r.tokens.head? = some .value then
          readUnless? fuel ends .besideKey { r with tokens := r.tokens.drop 1 }
        else some (empty, r)
      let (nodes, r) ← readTable? fuel r
      some (key :: value :: nodes, r)

/-- The keys and values between braces in turn, up to the closing one; commas stand between them,
and one may stand behind them. -/
def readFlowTable? : Nat → Bool → Reader → Option (List Node × Reader)
  | 0, _, _ => none
  | fuel + 1, isFirst, r =>
    let next := { r with tokens := r.tokens.drop 1 }
    if r.tokens.head? = some .flowTableEnd then some ([], next)
    else if !isFirst && r.tokens.head? ≠ some .separator then none
    else
      let r := if isFirst then r else next
      if r.tokens.head? = some .flowTableEnd then some ([], { r with tokens := r.tokens.drop 1 })
      else do
        let (key, value, r) ← readFlowPair? fuel false r
        let (nodes, r) ← readFlowTable? fuel false r
        some (key :: value :: nodes, r)

/-- A key and its value between braces or brackets. Between braces either may be left out. -/
def readFlowPair? : Nat → Bool → Reader → Option (Node × Node × Reader)
  | 0, _, _ => none
  | fuel + 1, inList, r => do
    let last := if inList then .flowListEnd else .flowTableEnd
    let keyEnds := if inList then [] else [.value, .separator, last]
    let next := { r with tokens := r.tokens.drop 1 }
    let isMarked := r.tokens.head? = some .key || r.tokens.head? = some .value
    let (key, r) ←
      if r.tokens.head? = some .key then readUnless? fuel keyEnds .flow next
      else if r.tokens.head? = some .value then some (empty, r)
      else readNode? fuel .flow r
    let (value, r) ←
      if isMarked && r.tokens.head? = some .value then
        readUnless? fuel [.separator, last] .flow { r with tokens := r.tokens.drop 1 }
      else some (empty, r)
    some (key, value, r)

/-- The items between brackets, up to the closing one; commas stand between them, and one may stand
behind them. A key with its value is a table of its own. -/
def readFlowList? : Nat → Bool → Reader → Option (List Node × Reader)
  | 0, _, _ => none
  | fuel + 1, isFirst, r =>
    let next := { r with tokens := r.tokens.drop 1 }
    if r.tokens.head? = some .flowListEnd then some ([], next)
    else if !isFirst && r.tokens.head? ≠ some .separator then none
    else
      let r := if isFirst then r else next
      if r.tokens.head? = some .flowListEnd then some ([], { r with tokens := r.tokens.drop 1 })
      else do
        let isPair := r.tokens.head? = some .key || r.tokens.head? = some .value
        let (node, r) ←
          if isPair then do
            let (key, value, r) ← readFlowPair? fuel true r
            some (← table? [key, value], r)
          else readNode? fuel .flow r
        let (nodes, r) ← readFlowList? fuel false r
        some (node :: nodes, r)
end

/-- The directives in front of a document are left behind; the last one counts, and at most one is
about the version. -/
def afterDirectives? : Bool → Option (String × String) → List Token →
    Option (Option (String × String) × List Token)
  | hasVersion, _, .directive .version :: ts =>
    if hasVersion then none else afterDirectives? true none ts
  | hasVersion, _, .directive (.handle handle pre) :: ts =>
    afterDirectives? hasVersion (some (handle, pre)) ts
  | hasVersion, _, .directive .other :: ts => afterDirectives? hasVersion none ts
  | _, declared, ts => some (declared, ts)

end Reader

/-- The only document of the tokens, or nothing where there is none. -/
def readDocument? (tokens : List Token) : Option Node := do
  let isEnd := fun (t : Token) => t = .documentEnd
  let tokens := tokens.dropWhile isEnd
  if tokens.isEmpty then some (some .empty)
  else
    let (declared, ts) ← Reader.afterDirectives? false none tokens
    let hasStart := ts.head? = some .documentStart
    if !hasStart && ts.length < tokens.length then none
    else
      let r : Reader := ⟨if hasStart then ts.drop 1 else ts, declared, [], []⟩
      let (node, r) ← Reader.readNode? (4 * r.tokens.length + 4) .block r
      if r.tokens.all isEnd then some node else none

def parse? (text : String) : Option (List (String × Setting)) := do
  match ← (tokens? text).bind readDocument? with
  | some (.table es) => some es
  | _ => none

end PagedQuery.Yaml
