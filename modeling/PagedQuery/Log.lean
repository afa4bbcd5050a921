/-! Log events: what the library reports about its work, and how an event is written as a line. -/

namespace PagedQuery

inductive LogLevel where
  | error | warn | info | debug | trace
deriving DecidableEq, Repr, Inhabited

namespace LogLevel

/-- How many levels are at least as grave. -/
def verbosity : LogLevel → Nat
  | error => 1
  | warn => 2
  | info => 3
  | debug => 4
  | trace => 5

def name : LogLevel → String
  | error => "ERROR"
  | warn => "WARN"
  | info => "INFO"
  | debug => "DEBUG"
  | trace => "TRACE"

end LogLevel

inductive LogSource where
  | selection | queries | documents | pool | config | logger
deriving DecidableEq, Repr, Inhabited

def LogSource.target : LogSource → String
  | selection => "folio_query::query_builder::builder"
  | queries => "folio_query::repository"
  | documents => "folio_query::documents::repository"
  | pool => "folio_query::database::connection"
  | config => "folio_query::config::loader"
  | logger => "folio_query::logging"

inductive LogValue where
  | text (s : String)
  | number (n : Int)
deriving DecidableEq, Repr, Inhabited

def LogValue.plain : LogValue → String
  | text s => s
  | number n => toString n

/-- An event: how grave it is, which part of the library reports it, a message, and fields in
order. -/
structure LogEvent where
  level : LogLevel
  source : LogSource
  message : String
  fields : List (String × LogValue)
deriving DecidableEq, Repr, Inhabited

namespace LogEvent

/-- A character as a line shows it. The ones that would steer a terminal are written by number. -/
def shownChar (c : Char) : List Char :=
  if c = '\x1b' || c = '\x07' || c = '\x08' || c = '\x0c' || c = '\x7f' then
    ['\\', 'x', Nat.digitChar (c.toNat / 16), Nat.digitChar (c.toNat % 16)]
  else if '\u0080' ≤ c ∧ c ≤ '\u009f' then
    ['\\', 'u', '\x7b'] ++ Nat.toDigits 16 c.toNat ++ ['\x7d']
  else [c]

def shownMessage (e : LogEvent) : String := String.ofList (e.message.toList.flatMap shownChar)

def line (e : LogEvent) : String :=
  String.intercalate " " (e.shownMessage :: e.fields.map fun f => f.1 ++ "=" ++ f.2.plain)

def debug (source : LogSource) (message : String) (fields : List (String × LogValue)) : LogEvent :=
  ⟨.debug, source, message, fields⟩

def info (source : LogSource) (message : String) (fields : List (String × LogValue)) : LogEvent :=
  ⟨.info, source, message, fields⟩

end LogEvent

end PagedQuery
