import PagedQuery.Config.Environment
import PagedQuery.Log

/-!
Structured logging: which events are written and in which form. The environment decides both, and a
variable of its own can set the level.
-/

namespace PagedQuery

/-- How events are written: as JSON objects for machines, or as coloured lines for people. -/
inductive LogFormat where
  | json | text
deriving DecidableEq, Repr, Inhabited

/-- Where events go: the form they take, and how many levels of gravity are let through. -/
structure Logger where
  environment : String
  format : LogFormat
  threshold : Nat
deriving DecidableEq, Repr, Inhabited

namespace Logger

/-- The number of levels that a filter text lets through. A text that is not a level names some
other part of the program, so nothing of this one is let through; an empty one stands for errors. -/
def thresholdOfFilter (s : String) : Nat :=
  let levels := [("off", 0), ("error", 1), ("warn", 2), ("info", 3), ("debug", 4), ("trace", 5),
    ("0", 0), ("1", 1), ("2", 2), ("3", 3), ("4", 4), ("5", 5), ("", 1)]
  ((levels.find? fun l => l.1 == s.toLower).map (·.2)).getD 0

/-- Production writes JSON and leaves out debugging; other environments write lines and keep it. -/
def ofEnvironment (env : Environment) : Logger :=
  let production := env.name == "production"
  { environment := env.name
    format := if production then .json else .text
    threshold := match env.get? "RUST_LOG" with
      | some s => thresholdOfFilter s
      | none => (if production then LogLevel.info else .debug).verbosity }

def accepts (l : Logger) (e : LogEvent) : Bool := e.level.verbosity ≤ l.threshold

def startEvent (l : Logger) : LogEvent :=
  .info .logger "Structured logging initialized" [("environment", .text l.environment)]

/-- What is written of `events` when logging was started `starts` times before: nothing when it
never was, and the start only once. -/
def written (l : Logger) (starts : Nat) (events : List LogEvent) : List LogEvent :=
  if starts = 0 then [] else (l.startEvent :: events).filter l.accepts

end Logger

end PagedQuery
