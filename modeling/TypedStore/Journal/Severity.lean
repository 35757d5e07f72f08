/-!
# Severities

How much an entry of the journal matters. Entries below a least severity are not
written, and the gravest two are written to a stream of their own.
-/

namespace TypedStore

/-- How much an entry matters. -/
inductive Severity where
  /-- Detail of single queries. -/
  | trace
  /-- Normal operation. -/
  | info
  /-- Something to look after. -/
  | warn
  /-- An operation failed. -/
  | error
  /-- An operation cannot go on. -/
  | fatal
deriving DecidableEq, Repr

namespace Severity

/-- The rank of a severity. -/
def rank : Severity → Nat
  | trace => 0
  | info => 1
  | warn => 2
  | error => 3
  | fatal => 4

/-- The name written in entries. -/
def name : Severity → String
  | trace => "TRACE"
  | info => "INFO"
  | warn => "WARN"
  | error => "ERROR"
  | fatal => "FATAL"

/-- The word used in settings. -/
def word : Severity → String
  | trace => "trace"
  | info => "info"
  | warn => "warn"
  | error => "error"
  | fatal => "fatal"

/-- All severities, the least first. -/
def all : List Severity := [trace, info, warn, error, fatal]

/-- The severity with a given word. -/
def ofWord? (word : String) : Option Severity := all.find? fun severity => severity.word = word

/-- Entries of a severity are written where entries of a least severity are. -/
def enabled (least severity : Severity) : Bool := least.rank ≤ severity.rank

/-- Entries of the severity go to the stream for errors. -/
def isGrave (severity : Severity) : Bool := error.rank ≤ severity.rank

end Severity

end TypedStore
