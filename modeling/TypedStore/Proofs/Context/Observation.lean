import TypedStore.Proofs.Context.History
import TypedStore.Proofs.Journal.Lines

/-!
# Sessions with a log

A process writes the entries of a context to its streams as they come, and its least severity
tells which of them. The context does not read the least severity and nothing reads the
streams: two sessions that differ in the least severity do the same, and the one that writes
less leaves out the entries below its least severity and no others.
-/

namespace TypedStore

/-- The entry as it is for all least severities: only that for the settings tells of them. -/
def Entry.unlevelled (entry : Entry) : Entry :=
  if entry.event = Event.configLoaded.name then
    { entry with fields := entry.fields.filter fun field => field.1 ≠ Settings.leastName }
  else entry

/-- The line of an entry with a mask for the time that has passed, and without the least severity
of the settings. -/
def Entry.masked (mask : String) (entry : Entry) : String := entry.unlevelled.line mask

/-- A context, with the least severity of its process and what this has written. -/
structure Session where
  context : Context
  least : Severity
  streams : Streams

namespace Session

variable (line : Entry → String)

/-- Write an entry, if the least severity lets it. -/
def note (session : Session) (entry : Entry) : Session :=
  { session with streams := session.streams.write session.least line entry }

/-- A session with a new context: the settings give the least severity from the first entry on. -/
def start (store : Store) (settings : Settings) : Session :=
  (Context.creationJournal settings).foldl (note line)
    ⟨Context.create store settings, settings.least, Streams.empty⟩

/-- Entries that are written one after another change nothing but the streams. -/
theorem foldl_note (session : Session) (entries : List Entry) :
    entries.foldl (note line) session =
      { session with
        streams := entries.foldl (Streams.write session.least line) session.streams } := by
  induction entries generalizing session with
  | nil => rfl
  | cons entry rest ih => exact ih (note line session entry)

variable [PatternEngine]

/-- Do what is asked of the context, and write the entries that this leaves. -/
def perform (session : Session) (step : Step) : Session × Reply :=
  let effect := session.context.perform step
  (effect.journal.foldl (note line) { session with context := effect.context }, effect.outcome)

/-- The session after a history, with the replies of all steps. -/
def run (session : Session) : List Step → Session × List Reply
  | [] => (session, [])
  | step :: rest =>
      let first := perform line session step
      let later := run first.1 rest
      (later.1, first.2 :: later.2)

/-- A session answers what its context answers, and it writes the entries of the context. -/
theorem run_eq (session : Session) (history : List Step) :
    run line session history =
      ({ session with
          context := (session.context.performAll history).context
          streams := (session.context.performAll history).journal.foldl
            (Streams.write session.least line) session.streams },
        (session.context.performAll history).outcome) := by
  induction history generalizing session with
  | nil => rfl
  | cons step rest ih =>
    simp only [run, perform, foldl_note, ih, Context.performAll, List.foldl_append]

end Session

namespace Context

/-- A context with another least severity in its settings. -/
def withLeast (context : Context) (least : Severity) : Context :=
  { context with settings := { context.settings with least := least } }

/-- The store answers a change without the settings. -/
theorem replyTo_withLeast (context : Context) (least : Severity) (change : Change) :
    (context.withLeast least).replyTo change = context.replyTo change := by
  cases change with
  | add node made =>
    simp only [replyTo, addNode, withLeast]
    cases context.store.add node <;> rfl
  | delete id | refresh scheduling passes => rfl

/-- Overlays are refreshed without the least severity. -/
theorem refresh_withLeast (context : Context) (least : Severity) (passes : List Pass) :
    (context.withLeast least).refresh passes =
      { context.refresh passes with
        context := (context.refresh passes).context.withLeast least } := by
  simp only [refresh, withLeast]
  cases (context.store.refresh context.settings.scheduling passes).outcome <;> rfl

variable [PatternEngine]

/-- A query is planned and answered without the least severity. -/
theorem runQuery_withLeast (context : Context) (least : Severity) (query : Query) :
    (context.withLeast least).runQuery query =
      { context.runQuery query with
        context := (context.runQuery query).context.withLeast least } := by
  have hplan : (context.withLeast least).planAndExecute query =
      { context.planAndExecute query with
        context := (context.planAndExecute query).context.withLeast least } := by
    simp only [planAndExecute, withLeast]
    cases (query.plan context.store context.cache context.counters).outcome <;> rfl
  simp only [runQuery, hplan]
  cases (context.planAndExecute query).outcome with
  | ok answer => rfl
  | error stop => cases stop <;> rfl

/-- A step does the same whatever the least severity is. -/
theorem perform_withLeast (context : Context) (least : Severity) (step : Step) :
    (context.withLeast least).perform step =
      { context.perform step with
        context := (context.perform step).context.withLeast least } := by
  cases step with
  | write change =>
    simp only [perform, replyTo_withLeast]
    rfl
  | refresh passes => simp only [perform, refresh_withLeast]
  | query query => simp only [perform, runQuery_withLeast]
  | ensure text types =>
    simp only [perform, withLeast]
    cases context.cache.ensure context.store text types <;> rfl
  | lookup text value types | clear => rfl

/-- So does a history. -/
theorem performAll_withLeast (context : Context) (least : Severity) (history : List Step) :
    (context.withLeast least).performAll history =
      { context.performAll history with
        context := (context.performAll history).context.withLeast least } := by
  induction history generalizing context with
  | nil => rfl
  | cons step rest ih => simp only [performAll, perform_withLeast, ih]

end Context

namespace Entry

@[simp] theorem severity_unlevelled (entry : Entry) :
    entry.unlevelled.severity = entry.severity := by
  unfold unlevelled
  split <;> rfl

/-- The entry for the settings is the same for all least severities, but for what it tells of
them. -/
theorem unlevelled_creationJournal (settings : Settings) (least : Severity) :
    (Context.creationJournal { settings with least := least }).map unlevelled =
      (Context.creationJournal settings).map unlevelled := by
  simp [Context.creationJournal, Context.loadedEntry, unlevelled, ofEvent, plain,
    Settings.leastName]

end Entry

namespace Session

variable [PatternEngine]

/-- What a session has written is what its context leaves, parted by severity. -/
theorem streams_run (store : Store) (settings : Settings) (mask : String) (history : List Step) :
    let journal := ((Context.create store settings).performAll history).journal
    (run (Entry.masked mask) (start (Entry.masked mask) store settings) history).1.streams =
      Streams.ofEntries settings.least mask
        ((Context.creationJournal settings ++ journal).map Entry.unlevelled) := by
  intro journal
  -- Masked or not, an entry has its severity and goes to the same stream.
  have hwrite : Streams.write settings.least (Entry.masked mask) = fun streams entry =>
      Streams.write settings.least (fun entry => entry.line mask) streams entry.unlevelled := by
    funext streams entry
    simp only [Streams.write, Entry.masked, Entry.severity_unlevelled]
  rw [run_eq, Streams.ofEntries_eq_foldl_write, List.foldl_map, List.foldl_append, ← hwrite]
  simp only [start, foldl_note]
  rfl

/-- Two sessions with one history that differ in the least severity of their settings give the
same replies and have the same store, the same indexes and the same counters. Where details are
written, all entries are; a session with another least severity has written those that are at
least as severe, errors and what cannot go on to the stream for them and all else to the other
one, and the lines are the same but for the time that has passed and the least severity that the
first of them tells. -/
theorem run_readOnly (store : Store) (settings : Settings) (least other : Severity)
    (history : List Step) (mask : String) :
    let session (level : Severity) := run (Entry.masked mask)
      (start (Entry.masked mask) store { settings with least := level }) history
    let traced : Settings := { settings with least := .trace }
    let entries := (Context.creationJournal traced ++
      ((Context.create store traced).performAll history).journal).map Entry.unlevelled
    let grave := entries.filter fun entry => entry.severity = .error ∨ entry.severity = .fatal
    let others := entries.filter fun entry =>
      ¬(entry.severity = .error ∨ entry.severity = .fatal)
    (session least).2 = (session other).2 ∧
      (session least).1.context.store = (session other).1.context.store ∧
      (session least).1.context.cache = (session other).1.context.cache ∧
      (session least).1.context.counters = (session other).1.context.counters ∧
      (session .trace).1.streams =
        ⟨others.map fun entry => entry.line mask, grave.map fun entry => entry.line mask⟩ ∧
      (session least).1.streams =
        { out := (others.filter fun entry => least.enabled entry.severity).map
            fun entry => entry.line mask
          err := (grave.filter fun entry => least.enabled entry.severity).map
            fun entry => entry.line mask } := by
  intro session traced entries grave others
  have hcreate (level : Severity) : Context.create store { settings with least := level } =
      (Context.create store settings).withLeast level := rfl
  have hsession (level : Severity) :
      (session level).2 = ((Context.create store settings).performAll history).outcome ∧
        (session level).1.context =
          ((Context.create store settings).performAll history).context.withLeast level := by
    have hstart : (start (Entry.masked mask) store { settings with least := level }).context =
        (Context.create store settings).withLeast level := by
      rw [start, foldl_note, hcreate]
    simp only [session, run_eq, hstart, Context.performAll_withLeast, and_self]
  have hstreams (level : Severity) :
      (session level).1.streams = Streams.ofEntries level mask entries := by
    have hjournal (level : Severity) :
        ((Context.create store { settings with least := level }).performAll history).journal =
          ((Context.create store settings).performAll history).journal := by
      rw [hcreate, Context.performAll_withLeast]
    simp only [session, streams_run, entries, traced, List.map_append,
      Entry.unlevelled_creationJournal, hjournal]
  refine ⟨?_, ?_, ?_, ?_, ?_, ?_⟩
  · rw [(hsession least).1, (hsession other).1]
  · rw [(hsession least).2, (hsession other).2]
    rfl
  · rw [(hsession least).2, (hsession other).2]
    rfl
  · rw [(hsession least).2, (hsession other).2]
    rfl
  · rw [hstreams, Streams.ofEntries_eq]
    simp [others, grave]
  · rw [hstreams, Streams.ofEntries_eq]

end Session

end TypedStore
