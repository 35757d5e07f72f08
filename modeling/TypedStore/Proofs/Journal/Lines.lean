import TypedStore.Journal.Span

/-!
# Entries that are written

An entry is written as a line if its severity is at least the least one, to the stream for
errors if it is grave and else to the other one. The events that the entries tell of can be
counted.
-/

namespace TypedStore

/-- Where details are written, everything is. -/
@[simp] theorem Severity.enabled_trace (severity : Severity) : trace.enabled severity = true := by
  simp [enabled, rank]

/-- Errors and what cannot go on are grave. -/
theorem Severity.isGrave_eq (severity : Severity) :
    severity.isGrave = decide (severity = .error ∨ severity = .fatal) := by
  cases severity <;> rfl

namespace Entry

/-- The entries that tell of an event. -/
def about (event : String) (entries : List Entry) : List Entry :=
  entries.filter fun entry => entry.event = event

/-- How many entries tell of an event. -/
def tally (event : String) (entries : List Entry) : Nat := (about event entries).length

section

variable (event : String) (entry : Entry) (entries later : List Entry)

@[simp] theorem about_nil : about event [] = [] := rfl

@[simp] theorem about_cons :
    about event (entry :: entries) =
      if entry.event = event then entry :: about event entries else about event entries := by
  simp [about, List.filter_cons]

@[simp] theorem about_append :
    about event (entries ++ later) = about event entries ++ about event later :=
  List.filter_append entries later

@[simp] theorem tally_nil : tally event [] = 0 := rfl

@[simp] theorem tally_cons :
    tally event (entry :: entries) =
      tally event entries + if entry.event = event then 1 else 0 := by
  simp only [tally, about_cons]
  split <;> simp

@[simp] theorem tally_append :
    tally event (entries ++ later) = tally event entries + tally event later := by
  simp [tally]

end

@[simp] theorem event_ofEvent (event : Event) (fields : List (String × String)) :
    (ofEvent event fields).event = event.name := rfl

@[simp] theorem event_detail (event : Event) (fields : List (String × String)) :
    (detail event fields).event = event.name := rfl

/-- Every entry is written where details are. -/
@[simp] theorem written_trace (entries : List Entry) : written .trace entries = entries := by
  simp [written]

end Entry

namespace Span

variable (span : Span)

@[simp] theorem event_begun : span.begun.event = span.name ++ "_BEGIN" := rfl

@[simp] theorem event_completed (more : List (String × String)) :
    (span.completed more).event = span.name ++ "_COMPLETE" := rfl

@[simp] theorem event_failed (reason : String) :
    (span.failed reason).event = span.name ++ "_FAILED" := rfl

end Span

namespace Streams

/-- Streams without lines. -/
def empty : Streams := ⟨[], []⟩

/-- Write the line of an entry, if the least severity lets it, after the others of its stream. -/
def write (least : Severity) (line : Entry → String) (streams : Streams) (entry : Entry) :
    Streams :=
  if least.enabled entry.severity then
    if entry.severity.isGrave then { streams with err := streams.err ++ [line entry] }
    else { streams with out := streams.out ++ [line entry] }
  else streams

variable (least : Severity) (line : Entry → String) (streams : Streams)

/-- Written one after another, the entries that the least severity lets are parted. -/
theorem foldl_write (entries : List Entry) :
    entries.foldl (write least line) streams =
      { out := streams.out ++ ((Entry.written least entries).filter
          fun entry => !entry.severity.isGrave).map line
        err := streams.err ++ ((Entry.written least entries).filter
          fun entry => entry.severity.isGrave).map line } := by
  induction entries generalizing streams with
  | nil => simp [Entry.written]
  | cons entry rest ih =>
    rw [List.foldl_cons, ih]
    cases henabled : least.enabled entry.severity <;> cases hgrave : entry.severity.isGrave <;>
      simp [write, Entry.written, henabled, hgrave]

/-- The lines of errors and of what cannot go on are parted from all others; of both, those are
written that are severe enough. -/
theorem ofEntries_eq (elapsed : String) (entries : List Entry) :
    let grave := entries.filter fun entry => entry.severity = .error ∨ entry.severity = .fatal
    let others := entries.filter fun entry =>
      ¬(entry.severity = .error ∨ entry.severity = .fatal)
    ofEntries least elapsed entries =
      { out := (others.filter fun entry => least.enabled entry.severity).map
          fun entry => entry.line elapsed
        err := (grave.filter fun entry => least.enabled entry.severity).map
          fun entry => entry.line elapsed } := by
  simp [ofEntries, List.partition_eq_filter_filter, Entry.written, List.filter_filter,
    Function.comp_def, Severity.isGrave_eq, Bool.and_comm]

/-- The lines for some entries are those that are written one after another. -/
theorem ofEntries_eq_foldl_write (elapsed : String) (entries : List Entry) :
    ofEntries least elapsed entries =
      entries.foldl (write least fun entry => entry.line elapsed) empty := by
  rw [foldl_write]
  simp [ofEntries, empty, List.partition_eq_filter_filter, Function.comp_def]

end Streams

end TypedStore
