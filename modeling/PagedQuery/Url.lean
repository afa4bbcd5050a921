import PagedQuery.Url.Domain
import PagedQuery.Url.Ip
import PagedQuery.Url.Percent

/-!
Addresses of resources (URLs): their parts, and why a text is none. Characters are taken as they are
written; what a part stands for is decided by its readers.
-/

namespace PagedQuery

structure Url where
  scheme : String
  user : List Char
  password : Option (List Char)
  /-- The name or number of a host; none where the address names none. -/
  host : Option (List Char)
  port : Option Nat
  path : List Char
  query : Option (List Char)
deriving DecidableEq, Repr

/-- Why a text is no address. -/
inductive UrlError where
  | noScheme
  | emptyHost
  | badHostName
  | badHostCharacter
  | badIpv4
  | badIpv6
  | badPort
deriving DecidableEq, Repr

def UrlError.message : UrlError → String
  | noScheme => "relative URL without a base"
  | emptyHost => "empty host"
  | badHostName => "invalid international domain name"
  | badHostCharacter => "invalid domain character"
  | badIpv4 => "invalid IPv4 address"
  | badIpv6 => "invalid IPv6 address"
  | badPort => "invalid port number"

namespace Url

/-- The characters of an address: without controls and spaces at either end, and without tabs and
line ends. -/
def characters (s : String) : List Char :=
  let isOutside (c : Char) : Bool := c.toNat ≤ 0x20
  let inner := ((s.toList.dropWhile isOutside).reverse.dropWhile isOutside).reverse
  inner.filter fun c => c ≠ '\t' && c ≠ '\n' && c ≠ '\r'

/-- A character that a scheme may have after its first letter. -/
def isSchemeChar (c : Char) : Bool := c.isAlphanum || c = '+' || c = '-' || c = '.'

def readScheme? (cs : List Char) : Option (String × List Char) :=
  match cs with
  | c :: _ =>
    match c.isAlpha, cs.dropWhile isSchemeChar with
    | true, ':' :: rest =>
      some (String.ofList ((cs.takeWhile isSchemeChar).map Char.toLower), rest)
    | _, _ => none
  | [] => none

/-- A scheme whose addresses always have a host, and in which a backslash is a slash. -/
def isSpecial (scheme : String) : Bool :=
  ["http", "https", "ws", "wss", "ftp", "file"].contains scheme

def isSlash (special : Bool) (c : Char) : Bool := c = '/' || (special && c = '\\')

def endsAuthority (special : Bool) (c : Char) : Bool := isSlash special c || c = '?' || c = '#'

/-- The characters before and after the last `@`. -/
def splitLastAt? : List Char → Option (List Char × List Char)
  | [] => none
  | c :: cs =>
    match splitLastAt? cs with
    | some (front, back) => some (c :: front, back)
    | none => if c = '@' then some ([], cs) else none

/-- The host in front, up to a colon outside brackets or the end of its part, and the rest. -/
def splitHost (special inBrackets : Bool) : List Char → List Char × List Char
  | [] => ([], [])
  | c :: cs =>
    if (c = ':' && !inBrackets) || endsAuthority special c then ([], c :: cs)
    else
      let (host, rest) := splitHost special (c = '[' || (inBrackets && c ≠ ']')) cs
      (c :: host, rest)

/-- A character that the name of a host must not have where it is taken as it is written. -/
def isForbiddenInHost (c : Char) : Bool :=
  c = '\x00' || "\t\n\r #/:<>?@[\\]^|".toList.contains c

def checkBracketed (cs : List Char) : Except UrlError Unit :=
  if cs.getLast? = some ']' && isIpv6 (cs.drop 1).dropLast then .ok () else .error .badIpv6

/-- A host that is taken as it is written: a number in brackets or a name, which may be empty. -/
def checkOpaqueHost (cs : List Char) : Except UrlError Unit :=
  if cs.head? = some '[' then checkBracketed cs
  else if cs.any isForbiddenInHost then .error .badHostCharacter
  else .ok ()

/-- A host that is resolved: a number in brackets, a number, or a name. -/
def checkNamedHost (cs : List Char) : Except UrlError Unit :=
  if cs.head? = some '[' then checkBracketed cs
  else
    match (Text.ofUtf8 (percentBytes cs)).toOption.bind (domain? ·.toList) with
    | none => .error .badHostName
    | some name =>
      if name.isEmpty then .error .emptyHost
      else if endsInNumber name && !isIpv4 name then .error .badIpv4
      else .ok ()

/-- A port in front of which the colon was read, behind the digits before, and the rest. -/
def readPort (port : Option Nat) : List Char → Except UrlError (Option Nat × List Char)
  | [] => .ok (port, [])
  | c :: cs =>
    if c.isDigit then
      let n := 10 * port.getD 0 + Text.digitsValue [c]
      if 65535 < n then .error .badPort else readPort (some n) cs
    else if endsAuthority true c then .ok (port, c :: cs)
    else .error .badPort

def isHere (segment : List Char) : Bool :=
  [".", "%2e"].contains (String.ofList (segment.map Char.toLower))

def isAbove (segment : List Char) : Bool :=
  ["..", ".%2e", "%2e.", "%2e%2e"].contains (String.ofList (segment.map Char.toLower))

/-- The letter of a drive, of which a bar may stand for the colon. -/
def driveLetter? : List Char → Option Char
  | [c, mark] => if c.isAlpha && (mark = ':' || mark = '|') then some c else none
  | _ => none

/-- The parts of a path, in reverse, without the last one. A drive stays. -/
def parent : List (List Char) → List (List Char)
  | [] => []
  | last :: done => if (driveLetter? last).isSome then last :: done else done

/-- The parts of a path, in reverse, with one more. In the path of a file, a drive in front is
written with a colon. -/
def child (isFile : Bool) (done : List (List Char)) (segment : List Char) : List (List Char) :=
  match driveLetter? segment with
  | some c => (if isFile && done.isEmpty then [c, ':'] else segment) :: done
  | none => segment :: done

/-- The parts of a path behind those before in reverse, without the ones that stand for places above
and the same place. A path that ends in one of these ends in a slash. -/
def resolve (isFile : Bool) (done : List (List Char)) : List (List Char) → List (List Char)
  | [] => done.reverse
  | [last] =>
    if isAbove last then ([] :: parent done).reverse
    else if isHere last then ([] :: done).reverse
    else (child isFile done last).reverse
  | segment :: rest =>
    if isAbove segment then resolve isFile (parent done) rest
    else if isHere segment then resolve isFile done rest
    else resolve isFile (child isFile done segment) rest

/-- A path that begins with a slash or is empty. -/
def hierarchicalPath (scheme : String) (cs : List Char) : List Char :=
  let special := isSpecial scheme
  let slashed := cs.map fun c => if isSlash special c then '/' else c
  let segments (rest : List Char) : List Char :=
    (resolve (scheme = "file") [] (Text.split '/' rest)).flatMap ('/' :: ·)
  match slashed with
  | [] => if special then ['/'] else []
  | '/' :: rest => segments rest
  | rest => segments rest

/-- The address with the path and query in `cs`, which may end in a fragment. -/
def withPath (url : Url) (toPath : List Char → List Char) (cs : List Char) : Url :=
  let cs := cs.takeWhile (· ≠ '#')
  { url with
    path := toPath (cs.takeWhile (· ≠ '?'))
    query := match cs.dropWhile (· ≠ '?') with
      | _ :: query => some query
      | [] => none }

/-- An address without anything behind its scheme. -/
def ofScheme (scheme : String) : Url := ⟨scheme, [], none, none, none, [], none⟩

/-- The user and the password in front of `@`, and whether one of them is there. -/
def readUser (info : List Char) : List Char × Option (List Char) :=
  let password := (info.dropWhile (· ≠ ':')).drop 1
  (info.takeWhile (· ≠ ':'), if password.isEmpty then none else some password)

/-- The address whose user, host and path follow. -/
def withAuthority (scheme : String) (cs : List Char) : Except UrlError Url := do
  let special := isSpecial scheme
  let authority := cs.takeWhile (!endsAuthority special ·)
  let behind := cs.dropWhile (!endsAuthority special ·)
  let (info, cs) := match splitLastAt? authority with
    | some (info, host) => (some info, host ++ behind)
    | none => (none, cs)
  if info = some [] && cs.head?.any (endsAuthority special) then throw .emptyHost
  let (user, password) := readUser (info.getD [])
  let (host, cs) := splitHost special false cs
  if special && host.isEmpty then throw .emptyHost
  if special then checkNamedHost host else checkOpaqueHost host
  if host.isEmpty && cs.head? = some ':' then throw .emptyHost
  let (port, cs) ← if cs.head? = some ':' then readPort none (cs.drop 1) else pure (none, cs)
  if host.isEmpty && (!user.isEmpty || password.isSome) then throw .emptyHost
  let url : Url := { ofScheme scheme with
    user := user
    password := password
    host := if host.isEmpty then none else some host
    port := port }
  return url.withPath (hierarchicalPath scheme) cs

/-- The address of a file, whose host may be left out. -/
def ofFile (cs : List Char) : Except UrlError Url := do
  let url := ofScheme "file"
  match cs with
  | a :: b :: rest =>
    if isSlash true a && isSlash true b then
      let host := rest.takeWhile (!endsAuthority true ·)
      if host.isEmpty || (driveLetter? host).isSome then
        return url.withPath (hierarchicalPath "file") rest
      else
        checkNamedHost host
        return ({ url with host := some host }).withPath (hierarchicalPath "file")
          (rest.dropWhile (!endsAuthority true ·))
    else return url.withPath (hierarchicalPath "file") cs
  | cs => return url.withPath (hierarchicalPath "file") cs

def parse (s : String) : Except UrlError Url :=
  match readScheme? (characters s) with
  | none => .error .noScheme
  | some (scheme, rest) =>
    if scheme = "file" then ofFile rest
    else if isSpecial scheme then withAuthority scheme (rest.dropWhile (isSlash true))
    else
      match rest with
      | '/' :: '/' :: rest => withAuthority scheme rest
      | '/' :: _ => .ok ((ofScheme scheme).withPath (hierarchicalPath scheme) rest)
      | rest => .ok ((ofScheme scheme).withPath id rest)

end Url

end PagedQuery
