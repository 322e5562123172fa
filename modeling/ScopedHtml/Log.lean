/-!
# ScopedHtml.Log

The records that the library and its command line keep of what they did.

An `Event` is what happened; its severity, source and message are read off it.
Records are shown from a threshold upwards, in the order in which they arose.
-/

namespace ScopedHtml.Log

/-- How urgent a record is. -/
inductive Severity
  | debug | info | warning | error | critical
  deriving DecidableEq, Repr, Inhabited

namespace Severity

/-- The place of a severity, the least urgent first. -/
def rank : Severity → Nat
  | debug => 0
  | info => 1
  | warning => 2
  | error => 3
  | critical => 4

/-- The name of a severity in records. -/
def name : Severity → String
  | debug => "DEBUG"
  | info => "INFO"
  | warning => "WARNING"
  | error => "ERROR"
  | critical => "CRITICAL"

/-- All severities, the most urgent first. -/
def all : List Severity := [critical, error, warning, info, debug]

/-- The severity of a name. -/
def ofName? (name : String) : Option Severity := all.find? fun severity => severity.name = name

end Severity

/-- Something worth a record. -/
inductive Event
  /-- The program `source` was told to show records from `threshold` upwards. -/
  | configured (source : String) (threshold : Severity)
  /-- A builder made its element. -/
  | finalized (builder tag : String)
  /-- An element was written to a file. -/
  | wrote (tag path : String)
  deriving DecidableEq, Repr, Inhabited

namespace Event

/-- How urgent an event is. -/
def severity : Event → Severity
  | configured _ _ => .debug
  | finalized _ _ => .debug
  | wrote _ _ => .info

/-- The part of the program that an event belongs to. -/
def source : Event → String
  | configured name _ => name
  | finalized _ _ => "genro_htmltags.builders.base"
  | wrote _ _ => "genro_htmltags.output"

/-- The words for an event. -/
def message : Event → String
  | configured _ threshold => "Logging configured at " ++ threshold.name
  | finalized builder tag => builder ++ " finalized into <" ++ tag ++ ">"
  | wrote tag path => "Wrote <" ++ tag ++ "> to " ++ path

/-- An event as a line of a record list. -/
def record (event : Event) : String :=
  event.severity.name ++ " " ++ event.source ++ ": " ++ event.message

/-- An event as a line on a terminal. -/
def line (event : Event) : String :=
  "[" ++ event.severity.name ++ "] " ++ event.source ++ ": " ++ event.message ++ "\n"

end Event

/-- The events shown at a threshold. -/
def shown (threshold : Severity) (events : List Event) : List Event :=
  events.filter fun event => threshold.rank ≤ event.severity.rank

end ScopedHtml.Log
