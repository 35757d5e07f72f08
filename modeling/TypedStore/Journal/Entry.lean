import TypedStore.Journal.Event
import TypedStore.Journal.Severity
import TypedStore.Json.Printer

/-!
# Entries of the journal

An entry is written as one line, a JSON object: the event and the severity first,
then the fields in increasing order of their keys. Of several fields with one key
the last one counts. Some entries tell how much time has passed; the reading of the
clock is given when the line is written.
-/

namespace TypedStore

/-- An entry of the journal. -/
structure Entry where
  severity : Severity
  event : String
  fields : List (String × String)
  /-- The time that has passed is added as the last field. -/
  timed : Bool
deriving DecidableEq, Repr

namespace Entry

/-- An entry without a time. -/
def plain (severity : Severity) (event : String) (fields : List (String × String)) : Entry :=
  ⟨severity, event, fields, false⟩

/-- The entry for an event: an error if it is a failure, else for information. -/
def ofEvent (event : Event) (fields : List (String × String)) : Entry :=
  plain (if event.isFailure then .error else .info) event.name fields

/-- The entry for an event as a detail. -/
def detail (event : Event) (fields : List (String × String)) : Entry :=
  plain .trace event.name fields

/-- The key of the time that has passed. -/
def elapsedKey : String := "elapsed_us"

/-- The fields, with the time that has passed if the entry tells it. -/
def allFields (entry : Entry) (elapsed : String) : List (String × String) :=
  if entry.timed then entry.fields ++ [(elapsedKey, elapsed)] else entry.fields

/-- The members of the line of an entry, in order. -/
def members (entry : Entry) (elapsed : String) : List (String × Json) :=
  ("event", .string entry.event) :: ("severity", .string entry.severity.name) ::
    Entries.ofList ((entry.allFields elapsed).map fun field => (field.1, .string field.2))

/-- The line of an entry, with its end. -/
def line (entry : Entry) (elapsed : String) : String :=
  String.ofList ((Json.object (entry.members elapsed)).chars ++ ['\n'])

/-- The entries that are written under a least severity. -/
def written (least : Severity) (entries : List Entry) : List Entry :=
  entries.filter fun entry => least.enabled entry.severity

end Entry

/-- The lines of the two streams: of errors, and of all else. -/
structure Streams where
  out : List String
  err : List String

/-- The lines that are written for some entries under a least severity. -/
def Streams.ofEntries (least : Severity) (elapsed : String) (entries : List Entry) : Streams :=
  let (grave, others) := (Entry.written least entries).partition fun entry => entry.severity.isGrave
  ⟨others.map (Entry.line · elapsed), grave.map (Entry.line · elapsed)⟩

end TypedStore
