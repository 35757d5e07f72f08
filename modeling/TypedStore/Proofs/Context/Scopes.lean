import TypedStore.Proofs.Context.History
import TypedStore.Proofs.Journal.Scopes
import TypedStore.Proofs.Query.Planning

/-!
# Scopes of a workbench

At a workbench a context is used together with a cache of indexes and counters beside it, with
which queries are planned without the context. Whatever is asked of a workbench, and whether it is
refused or fails, each scope that its log opens is closed once before the next one is opened.
-/

namespace TypedStore

/-- A context, and beside it a cache of indexes and counters. -/
structure Workbench where
  context : Context
  cache : IndexCache
  counters : Counters

/-- What is asked of a workbench: a step of its context, or work with the cache beside it. -/
inductive Task where
  | step (step : Step)
  /-- Plan a query, and answer it by its plan. -/
  | plan (query : Query)
  | ensure (text : String) (types : List String)
  | ensureField (name : String) (types : List String)
  | lookup (text : String) (value : Json) (types : List String)
  | lookupField (name : String) (value : Json) (types : List String)
  | clear

/-- What a task answers. -/
inductive Response where
  | replied (reply : Reply)
  | planned (outcome : Except QueryError (Plan × Except (Stop FilterError) Answer))

/-- A refresh of the overlays of some types, with its outcome. -/
structure RefreshCall where
  types : List String
  outcome : Except ContextError Unit

namespace RefreshCall

/-- The types with commas between them. -/
def typesText (call : RefreshCall) : String := Separated.joinTexts ',' call.types

/-- The event that tells the outcome. -/
def ending (call : RefreshCall) : String :=
  match call.outcome with
  | .ok _ => "RESOLVER_REFRESH_COMPLETE"
  | .error _ => "RESOLVER_REFRESH_FAILED"

end RefreshCall

/-- The refresh of the context, if this was the task. -/
def Task.refreshCall? : Task → Response → Option RefreshCall
  | step (.refresh passes), .replied (.refreshed _ outcome) =>
      some ⟨passes.map Pass.type, outcome⟩
  | _, _ => none

/-- What tasks leave: the workbench, the entries for the journal and the outcome. -/
structure Performed (α : Type) where
  bench : Workbench
  journal : List Entry
  outcome : α

namespace Workbench

/-- A workbench with a new context. -/
def create (store : Store) (settings : Settings) : Workbench :=
  ⟨Context.create store settings, IndexCache.empty settings.freshness, Counters.zero⟩

/-- What came of asking the cache beside the context for an index. -/
def ensured (bench : Workbench) : Except IndexError IndexCache.Ensured → Performed Response
  | .error e => ⟨bench, [], .replied (.ensured (.error e))⟩
  | .ok ensured =>
      ⟨{ bench with cache := ensured.cache }, ensured.journal,
        .replied (.ensured (.ok ensured.built))⟩

section Tasks

variable [PatternEngine]

/-- Do a task. -/
def perform (bench : Workbench) : Task → Performed Response
  | .step step =>
      let effect := bench.context.perform step
      ⟨{ bench with context := effect.context }, effect.journal, .replied effect.outcome⟩
  | .plan query =>
      let store := bench.context.store
      let planned := query.plan store bench.cache bench.counters
      ⟨{ bench with cache := planned.cache, counters := planned.counters }, planned.journal,
        .planned (planned.outcome.map fun plan => (plan, query.execute store plan))⟩
  | .ensure text types => bench.ensured (bench.cache.ensure bench.context.store text types)
  | .ensureField name types =>
      bench.ensured (bench.cache.ensureField bench.context.store name types)
  | .lookup text value types =>
      ⟨bench, [], .replied (.found (bench.cache.lookup? bench.context.store text value types))⟩
  | .lookupField name value types =>
      ⟨bench, [],
        .replied (.found (bench.cache.lookupField? bench.context.store name value types))⟩
  | .clear => ⟨{ bench with cache := bench.cache.clear }, [], .replied .cleared⟩

/-- Do tasks one after another. -/
def performAll (bench : Workbench) : List Task → Performed (List Response)
  | [] => ⟨bench, [], []⟩
  | task :: rest =>
      let done := bench.perform task
      let later := done.bench.performAll rest
      ⟨later.bench, done.journal ++ later.journal, done.outcome :: later.outcome⟩

end Tasks

end Workbench

/-- The span of a refresh is held until the store has answered. -/
theorem Context.refresh_journal (context : Context) (passes : List Pass) :
    ((context.refresh passes).outcome.2 = .ok () ∧
      (context.refresh passes).journal =
        (refreshSpan (passes.map Pass.type)).around [] (.complete [])) ∨
    ∃ e, (context.refresh passes).outcome.2 = .error (.store e) ∧
      (context.refresh passes).journal =
        (refreshSpan (passes.map Pass.type)).around
          [.ofEvent .resolverFailed [("reason", e.message)]] (.fail e.message) := by
  unfold Context.refresh
  simp only
  split
  · exact Or.inl ⟨rfl, rfl⟩
  · exact Or.inr ⟨_, rfl, rfl⟩

/-- A log closes its scopes, and those of refreshes are as they came out. -/
structure Tells (elapsed : String) (log : List Entry) (calls : List RefreshCall) : Prop where
  scopes : Scoped log
  begun : (Entry.about "RESOLVER_REFRESH_BEGIN" log).map (·.lastValue? elapsed "types") =
    calls.map fun call => some call.typesText
  ended : (log.filter fun entry => entry.event ∈ Work.refresh.endings).map
      (fun entry => (entry.event, entry.lastValue? elapsed "types")) =
    calls.map fun call => (call.ending, some call.typesText)

namespace Tells

variable {elapsed : String} {log later : List Entry} {calls more : List RefreshCall}

/-- Logs that follow on one another tell of their refreshes one after another. -/
theorem append (h : Tells elapsed log calls) (hlater : Tells elapsed later more) :
    Tells elapsed (log ++ later) (calls ++ more) where
  scopes := h.scopes.append hlater.scopes
  begun := by simp [h.begun, hlater.begun]
  ended := by rw [List.filter_append, List.map_append, h.ended, hlater.ended, List.map_append]

theorem about_of_quiet (h : ∀ entry ∈ log, Quiet entry.event) :
    Entry.about "RESOLVER_REFRESH_BEGIN" log = [] := by
  refine List.filter_eq_nil_iff.mpr fun entry hmem hevent => ?_
  have hquiet := h entry hmem
  rw [of_decide_eq_true hevent] at hquiet
  exact absurd hquiet.opens (by decide)

theorem filter_of_quiet (h : ∀ entry ∈ log, Quiet entry.event) :
    (log.filter fun entry => entry.event ∈ Work.refresh.endings) = [] := by
  refine List.filter_eq_nil_iff.mpr fun entry hmem hevent => ?_
  have hcloses := (Work.closes_of_mem_endings _ (of_decide_eq_true hevent)).2.1
  rw [(h entry hmem).closes] at hcloses
  contradiction

/-- Entries that have to do with no scope tell of no refresh. -/
theorem of_quiet (h : ∀ entry ∈ log, Quiet entry.event) : Tells elapsed log [] where
  scopes := by
    induction log with
    | nil => exact .nil
    | cons entry rest ih =>
      obtain ⟨hentry, hrest⟩ := List.forall_mem_cons.mp h
      exact .quiet hentry (ih hrest)
  begun := by rw [about_of_quiet h, List.map_nil, List.map_nil]
  ended := by rw [filter_of_quiet h, List.map_nil, List.map_nil]

/-- Nor does the entry for an event. -/
theorem of_event {entry : Entry} (event : Event) (h : entry.event = event.name) :
    Tells elapsed [entry] [] :=
  of_quiet (List.forall_mem_singleton.mpr (h ▸ event.quiet_name))

/-- The scope of building an index names it. -/
theorem of_build (name : IndexName) (buckets entries : String) :
    Tells elapsed ((IndexCache.buildSpan name).around []
      (.complete [("buckets", buckets), ("entries", entries)])) [] := by
  have hscope : Scope .indexBuild (IndexCache.buildSpan name).begun []
      ((IndexCache.buildSpan name).completed [("buckets", buckets), ("entries", entries)]) :=
    { begins := rfl
      quiet := by simp
      ends := List.mem_singleton.mpr rfl
      repeats := ⟨name.text, fun elapsed => by
        simp [Entry.lastValue?, Entry.allFields, Span.begun, Span.completed, Entry.plain,
          Entry.elapsedKey, IndexCache.buildSpan, Work.key, Entries.get?]⟩ }
  rw [Span.around_eq]
  exact
    { scopes := .scope hscope .nil
      begun := by simp [IndexCache.buildSpan]
      ended := by simp [IndexCache.buildSpan, Work.endings] }

/-- Asking for an index leaves a scope if it is built. -/
theorem of_ensure {cache : IndexCache} {store : Store} {text : String} {types : List String}
    {ensured : IndexCache.Ensured} (h : cache.ensure store text types = .ok ensured) :
    Tells elapsed ensured.journal [] := by
  simp only [IndexCache.ensure] at h
  split at h
  · contradiction
  · split at h
    · obtain rfl := Except.ok.inj h
      exact of_build ..
    · split at h
      · obtain rfl := Except.ok.inj h
        exact of_quiet (by simp)
      · obtain rfl := Except.ok.inj h
        exact (of_event .indexStale rfl).append (of_build ..)

/-- So does asking for an index over a contributed field. -/
theorem of_ensureField {cache : IndexCache} {store : Store} {name : String} {types : List String}
    {ensured : IndexCache.Ensured} (h : cache.ensureField store name types = .ok ensured) :
    Tells elapsed ensured.journal [] := by
  simp only [IndexCache.ensureField] at h
  split at h
  · contradiction
  · exact of_ensure h

/-- So does a query that asks for an index. -/
theorem of_provides {query : Query} {store : Store} {cache : IndexCache}
    {ensured : IndexCache.Ensured} (h : query.Provides store cache ensured) :
    Tells elapsed ensured.journal [] := by
  cases h with
  | unasked => exact of_quiet (by simp)
  | asked use => exact of_ensure use.provided

/-- Planning leaves no other scope, also if it is refused. -/
theorem of_plan (query : Query) (store : Store) (cache : IndexCache) (counters : Counters) :
    Tells elapsed (query.plan store cache counters).journal [] := by
  have leaves := query.leaves_plan store cache counters
  generalize query.plan store cache counters = planned at leaves ⊢
  cases leaves with
  | refused => exact (of_event .queryReceived rfl).append (of_event .indexShortcutFailed rfl)
  | @chosen ensured provides plan =>
    have hindex : Tells elapsed ensured.journal [] := of_provides provides
    exact (of_event .queryReceived rfl).append (hindex.append (of_event .queryPlanned rfl))

/-- The scope of a refresh is closed by its outcome. -/
theorem of_scope {call : RefreshCall} {begun ended : Entry} {within : List Entry}
    (h : Scope .refresh begun within ended) (hended : ended.event = call.ending)
    (htypes : begun.lastValue? elapsed "types" = some call.typesText) :
    Tells elapsed (begun :: (within ++ [ended])) [call] := by
  have hbegins : begun.event = "RESOLVER_REFRESH_BEGIN" := h.begins
  have hends := h.ends
  have hbegin : "RESOLVER_REFRESH_BEGIN" ∉ Work.refresh.endings := by decide
  have hsame : ended.lastValue? elapsed "types" = some call.typesText := by
    obtain ⟨text, htext⟩ := h.repeats
    exact (htext elapsed).2.trans ((htext elapsed).1.symm.trans htypes)
  constructor
  case scopes => exact .scope h .nil
  case begun =>
    have hne : ended.event ≠ "RESOLVER_REFRESH_BEGIN" := fun heq => hbegin (heq ▸ hends)
    simp [hbegins, hne, about_of_quiet h.quiet, htypes]
  case ended =>
    simpa [hbegins, hbegin, hends, filter_of_quiet h.quiet, hsame] using hended

/-- A refresh leaves one scope. -/
theorem of_refresh (context : Context) (passes : List Pass) :
    Tells elapsed (context.refresh passes).journal
      [⟨passes.map Pass.type, (context.refresh passes).outcome.2⟩] := by
  let types := passes.map Pass.type
  let span := Context.refreshSpan types
  rcases context.refresh_journal passes with ⟨houtcome, hjournal⟩ | ⟨e, houtcome, hjournal⟩
  · have hscope : Scope .refresh span.begun [] (span.completed []) :=
      { begins := rfl
        quiet := by simp
        ends := List.mem_cons_self ..
        repeats := ⟨Separated.joinTexts ',' types, fun elapsed => ⟨rfl, rfl⟩⟩ }
    rw [houtcome, hjournal, Span.around_eq]
    exact of_scope hscope rfl rfl
  · have hscope : Scope .refresh span.begun [.ofEvent .resolverFailed [("reason", e.message)]]
        (span.failed e.message) :=
      { begins := rfl
        quiet := List.forall_mem_singleton.mpr (Event.quiet_name .resolverFailed)
        ends := List.mem_cons_of_mem _ (List.mem_cons_self ..)
        repeats := ⟨Separated.joinTexts ',' types, fun elapsed => ⟨rfl, rfl⟩⟩ }
    rw [houtcome, hjournal, Span.around_eq]
    exact of_scope hscope rfl rfl

/-- A query leaves what planning leaves, and unless it panics an entry for what has become of it. -/
theorem of_query [PatternEngine] (context : Context) (query : Query) :
    Tells elapsed (context.runQuery query).journal [] := by
  have hplanned : (context.planAndExecute query).journal =
      (query.plan context.store context.cache context.counters).journal := by
    unfold Context.planAndExecute
    simp only
    split <;> rfl
  have hplan : Tells elapsed (context.planAndExecute query).journal [] :=
    hplanned ▸ of_plan query ..
  unfold Context.runQuery
  simp only
  split
  · exact hplan.append (of_event .queryExecuted rfl)
  · exact hplan.append (of_event .queryFailed rfl)
  · exact hplan

end Tells

/-- What a step of a context leaves tells of the refresh, if the step is one. -/
theorem Context.tells_perform [PatternEngine] (elapsed : String) (context : Context) (step : Step) :
    Tells elapsed (context.perform step).journal
      ((Task.step step).refreshCall? (.replied (context.perform step).outcome)).toList := by
  cases step with
  | write | lookup | clear => exact .of_quiet (by simp [Context.perform])
  | refresh passes => exact .of_refresh context passes
  | query query => exact .of_query context query
  | ensure text types =>
    simp only [Context.perform]
    split
    · exact .of_quiet (by simp)
    · rename_i hensure
      exact .of_ensure hensure

namespace Workbench

/-- What asking the cache beside the context leaves tells of no refresh. -/
theorem tells_ensured {elapsed : String} {bench : Workbench}
    {result : Except IndexError IndexCache.Ensured}
    (h : ∀ ensured, result = .ok ensured → Tells elapsed ensured.journal []) :
    Tells elapsed (bench.ensured result).journal [] := by
  cases result with
  | error e => exact .of_quiet (by simp [ensured])
  | ok ensured => exact h ensured rfl

/-- What a task leaves tells of the refresh, if the task is one. -/
theorem tells_perform [PatternEngine] (elapsed : String) (bench : Workbench) (task : Task) :
    Tells elapsed (bench.perform task).journal
      (task.refreshCall? (bench.perform task).outcome).toList := by
  cases task with
  | step step => exact bench.context.tells_perform elapsed step
  | plan query => exact .of_plan query ..
  | ensure text types => exact tells_ensured fun _ => .of_ensure
  | ensureField name types => exact tells_ensured fun _ => .of_ensureField
  | lookup | lookupField | clear => exact .of_quiet (by simp [perform])

/-- The refreshes of the context among some tasks, with their outcomes. -/
def refreshCalls (tasks : List Task) (responses : List Response) : List RefreshCall :=
  (tasks.zip responses).filterMap fun done => done.1.refreshCall? done.2

theorem refreshCalls_cons (task : Task) (response : Response) (tasks : List Task)
    (responses : List Response) :
    refreshCalls (task :: tasks) (response :: responses) =
      (task.refreshCall? response).toList ++ refreshCalls tasks responses := by
  simp only [refreshCalls, List.zip_cons_cons, List.filterMap_cons]
  cases task.refreshCall? response <;> rfl

/-- What tasks leave tells of the refreshes among them. -/
theorem tells_performAll [PatternEngine] (elapsed : String) (bench : Workbench)
    (tasks : List Task) :
    Tells elapsed (bench.performAll tasks).journal
      (refreshCalls tasks (bench.performAll tasks).outcome) := by
  induction tasks generalizing bench with
  | nil => exact .of_quiet (by simp [performAll])
  | cons task rest ih =>
    rw [performAll, refreshCalls_cons]
    exact (bench.tells_perform elapsed task).append (ih (bench.perform task).bench)

/-- Where details are written, every scope that tasks open is closed by one entry before anything
else begins, with the same text under its key, and nothing is closed that is not open. No work is
given up. There is a scope for each refresh, which fails if and only if the refresh does. -/
theorem performAll_scopes [PatternEngine] (store : Store) (settings : Settings) (tasks : List Task)
    (elapsed : String) :
    let traced : Settings := { settings with least := .trace }
    let done := (create store traced).performAll tasks
    let log := Entry.written traced.least (Context.creationJournal traced ++ done.journal)
    let calls := refreshCalls tasks done.outcome
    (∀ (work : Work) (before after : List Entry) (begun : Entry),
      log = before ++ begun :: after → begun.event = work.name ++ "_BEGIN" →
        ∃ ended text,
          (after.takeWhile fun entry => !Work.opens entry.event).filter
            (fun entry => Work.closes entry.event) = [ended] ∧
          ended.event ∈ work.endings ∧ begun.lastValue? elapsed work.key = some text ∧
          ended.lastValue? elapsed work.key = some text) ∧
    (∀ (before after : List Entry) (ended : Entry),
      log = before ++ ended :: after → Work.closes ended.event = true →
        ∃ (work : Work) (earlier within : List Entry) (begun : Entry) (text : String),
          before = earlier ++ begun :: within ∧ begun.event = work.name ++ "_BEGIN" ∧
          ended.event ∈ work.endings ∧
          (∀ entry ∈ within, Work.opens entry.event = false ∧ Work.closes entry.event = false) ∧
          begun.lastValue? elapsed work.key = some text ∧
          ended.lastValue? elapsed work.key = some text) ∧
    (∀ entry ∈ log, Work.endsIn "_INCOMPLETE" entry.event = false) ∧
    (Entry.about "RESOLVER_REFRESH_BEGIN" log).map (·.lastValue? elapsed "types") =
      calls.map (fun call => some call.typesText) ∧
    (log.filter fun entry => entry.event ∈ Work.refresh.endings).map
        (fun entry => (entry.event, entry.lastValue? elapsed "types")) =
      calls.map fun call => (call.ending, some call.typesText) := by
  intro traced done log calls
  have hlog : Tells elapsed log calls := by
    have hcreation : Tells elapsed (Context.creationJournal traced) [] :=
      .of_event .configLoaded rfl
    simp only [log, traced, Entry.written_trace]
    exact hcreation.append (tells_performAll elapsed (create store traced) tasks)
  refine ⟨fun work before after begun hsplit hbegins => ?_,
    fun before after ended hsplit hcloses => ?_, hlog.scopes.not_incomplete, hlog.begun,
    hlog.ended⟩
  · have hopens : Work.opens begun.event = true := hbegins ▸ work.opens_begin.1
    obtain ⟨other, within, ended, later, hscope, rfl, hlater⟩ :=
      hlog.scopes.exists_scope_of_opens hsplit hopens
    obtain rfl : work = other := Work.name_begin_injective (hbegins.symm.trans hscope.begins)
    obtain ⟨text, htext⟩ := hscope.repeats
    exact ⟨ended, text, hscope.filter_takeWhile hlater, hscope.ends, htext elapsed⟩
  · obtain ⟨work, earlier, begun, within, rfl, hscope⟩ :=
      hlog.scopes.exists_scope_of_closes hsplit hcloses
    obtain ⟨text, htext⟩ := hscope.repeats
    have hquiet (entry : Entry) (hentry : entry ∈ within) :
        Work.opens entry.event = false ∧ Work.closes entry.event = false :=
      ⟨(hscope.quiet entry hentry).opens, (hscope.quiet entry hentry).closes⟩
    exact ⟨work, earlier, within, begun, text, rfl, hscope.begins, hscope.ends, hquiet,
      htext elapsed⟩

end Workbench

end TypedStore
