import PagedQuery.Text.Quoted
import PagedQuery.Url

/-!
Addresses of databases: where the server is, who connects and to which database, read from a URL.
The names and values behind its question mark override what stands in front of it.
-/

namespace PagedQuery

/-- Why a text is no number of a certain size. -/
inductive NumberFault where
  | empty
  | notDigit
  | tooLarge
deriving DecidableEq, Repr

def NumberFault.message : NumberFault → String
  | empty => "cannot parse integer from empty string"
  | notDigit => "invalid digit found in string"
  | tooLarge => "number too large to fit in target type"

/-- Why a text is no address of a database. -/
inductive AddressError where
  | notUrl (e : UrlError)
  /-- A part that has to be a text is none. -/
  | notText (f : Text.Utf8Fault)
  | badNumber (f : NumberFault)
  /-- The host is given as a number that is none. -/
  | badHostNumber
  /-- There is no such way to encrypt a connection. -/
  | badEncryption (value : String)
deriving DecidableEq, Repr

def AddressError.message : AddressError → String
  | notUrl e => e.message
  | notText f => f.message
  | badNumber f => f.message
  | badHostNumber => "invalid IP address syntax"
  | badEncryption value =>
    s!"error with configuration: unknown value {Text.quote value} for `ssl_mode`"

/-- Where a database is; what is missing has its usual value. -/
structure Address where
  host : Option String := none
  port : Option Nat := none
  user : Option String := none
  password : Option String := none
  database : Option String := none
  /-- Whether and how connections are encrypted. -/
  encryption : Option String := none
  /-- How many prepared statements a connection keeps. -/
  statementCapacity : Option Nat := none
deriving DecidableEq, Repr

namespace Address

/-- A number of decimal digits up to `limit`, behind a number of those before. -/
def readDigitsUpTo (limit n : Nat) : List Char → Except NumberFault Nat
  | [] => .ok n
  | c :: cs =>
    if !c.isDigit then .error .notDigit
    else
      let next := 10 * n + Text.digitsValue [c]
      if limit < next then .error .tooLarge else readDigitsUpTo limit next cs

/-- A number up to `limit`, with a plus sign or not. -/
def readNumber (limit : Nat) (s : String) : Except AddressError Nat :=
  let read : Except NumberFault Nat := match s.toList with
    | [] => .error .empty
    | ['+'] => .error .notDigit
    | '+' :: ds => readDigitsUpTo limit 0 ds
    | ds => readDigitsUpTo limit 0 ds
  read.mapError .badNumber

def readPart (cs : List Char) : Except AddressError String :=
  (Text.ofUtf8 (Url.percentBytes cs)).mapError .notText

/-- The host of a URL. One that stands for a path is the path of a local socket. -/
def readHost (cs : List Char) : Except AddressError String :=
  if (Url.percentBytes cs).head? = some 0x2F then readPart cs else .ok (String.ofList cs)

/-- The names of the ways to encrypt a connection, or not to. -/
def encryptions : List String :=
  ["disable", "allow", "prefer", "require", "verify-ca", "verify-full"]

/-- The address with one of the named values. Unknown names, and those that only matter once there
is a connection, change nothing. -/
def withValue (a : Address) (name value : String) : Except AddressError Address :=
  match name with
  | "sslmode" | "ssl-mode" =>
    if encryptions.contains value.toLower then .ok { a with encryption := some value.toLower }
    else .error (.badEncryption value)
  | "statement-cache-capacity" =>
    (readNumber (UInt64.size - 1) value).map fun n => { a with statementCapacity := some n }
  | "host" => .ok { a with host := some value }
  | "hostaddr" =>
    if Url.isDottedQuad value.toList || Url.isIpv6 value.toList then
      .ok { a with host := some value }
    else .error .badHostNumber
  | "port" => (readNumber (UInt16.size - 1) value).map fun n => { a with port := some n }
  | "dbname" => .ok { a with database := some value }
  | "user" => .ok { a with user := some value }
  | "password" => .ok { a with password := some value }
  | _ => .ok a

def ofUrl (url : Url) : Except AddressError Address := do
  let host ← url.host.mapM readHost
  let user ← if url.user.isEmpty then pure none else some <$> readPart url.user
  let password ← url.password.mapM readPart
  let path := url.path.dropWhile (· = '/')
  let database ← if path.isEmpty then pure none else some <$> readPart path
  let a : Address := { host, port := url.port, user, password, database }
  ((url.query.map Url.queryPairs).getD []).foldlM (fun a p => a.withValue p.1 p.2) a

def parse (s : String) : Except AddressError Address :=
  match Url.parse s with
  | .error e => .error (.notUrl e)
  | .ok url => ofUrl url

end Address

end PagedQuery
