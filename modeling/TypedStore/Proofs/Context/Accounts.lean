import TypedStore.Pattern.Dialect
import TypedStore.Proofs.Context.History
import TypedStore.Proofs.Query.Failure
import TypedStore.Proofs.Query.Planning

/-!
# What counters and journal tell of a history

Callers ask a context for queries and refreshes and write to its store in between. The counters
account for every query, by what became of it and by the way it was planned, and the journal
has an entry for whatever is counted. An index is not built anew under its name before the store
has changed, and never where indexes are used for ever.
-/

namespace TypedStore

/-- What callers ask of a context and its store. -/
inductive Call where
  | write (change : Change)
  | refresh (passes : List Pass)
  | query (query : Query)

namespace Call

/-- A call as a step of a history. -/
def step : Call → Step
  | write change => .write change
  | refresh passes => .refresh passes
  | query asked => .query asked

/-- A query is asked for. -/
def isQuery : Call → Bool
  | query _ => true
  | _ => false

end Call

/-- A query was answered. -/
def Reply.isAnswer : Reply → Bool
  | answered (.ok _) => true
  | _ => false

/-- A query was refused for want of an index. -/
def Reply.isShortcutFailure : Reply → Bool
  | answered (.error (.fault e)) => e.code = "NODEQ_INDEX_SHORTCUT_FAILED"
  | _ => false

/-- A query panicked. -/
def Reply.isPanic : Reply → Bool
  | answered (.error .panic) => true
  | _ => false

namespace Context

/-- The index that a call builds, if it builds one: its name and the generation of the store. -/
def build? (context : Context) : Call → Option (IndexName × Nat)
  | .query query =>
      (query.builtName? context.store context.cache).map (·, context.store.generation)
  | _ => none

/-- The indexes that calls build one after another. -/
def builds [PatternEngine] (context : Context) : List Call → List (IndexName × Nat)
  | [] => []
  | call :: rest =>
      (context.build? call).toList ++ (context.perform call.step).context.builds rest

end Context

/-- Counters have grown by what some calls have led to, and the journal tells of it. -/
structure Counters.Accounted (before after : Counters) (calls : List Call) (replies : List Reply)
    (builds : List (IndexName × Nat)) (journal : List Entry) : Prop where
  /-- A query has been answered or has failed, unless it panicked. -/
  queries : after.queriesExecuted + after.queriesFailed + replies.countP Reply.isPanic =
    before.queriesExecuted + before.queriesFailed + calls.countP Call.isQuery
  /-- A query has been planned in one of three ways or was refused. -/
  ways : after.indexShortcutHits + after.idShortcutHits + after.fullScans +
      replies.countP Reply.isShortcutFailure =
    before.indexShortcutHits + before.idShortcutHits + before.fullScans +
      calls.countP Call.isQuery
  answered : after.queriesExecuted = before.queriesExecuted + replies.countP Reply.isAnswer
  executed : after.queriesExecuted = before.queriesExecuted + Entry.tally "QUERY_EXECUTED" journal
  failed : after.queriesFailed = before.queriesFailed + Entry.tally "QUERY_FAILED" journal
  built : after.indexBuilds = before.indexBuilds + Entry.tally "INDEX_BUILD_COMPLETE" journal
  refreshed : after.resolverRefreshes =
    before.resolverRefreshes + Entry.tally "RESOLVER_REFRESH_COMPLETE" journal
  /-- The entries for indexes that are built name them. -/
  named : (Entry.about "INDEX_BUILD_COMPLETE" journal).map (·.fields.lookup "index") =
    builds.map fun build => some build.1.text

namespace Counters

variable {before middle after : Counters} {calls later : List Call}
  {replies moreReplies : List Reply} {builds moreBuilds : List (IndexName × Nat)}
  {journal moreEntries : List Entry}

/-- Where nothing is asked for, nothing is counted. -/
theorem accounted_refl (counters : Counters) : counters.Accounted counters [] [] [] [] := by
  constructor <;> rfl

/-- What earlier and later calls have led to adds up. -/
theorem Accounted.append (h : before.Accounted middle calls replies builds journal)
    (hlater : middle.Accounted after later moreReplies moreBuilds moreEntries) :
    before.Accounted after (calls ++ later) (replies ++ moreReplies) (builds ++ moreBuilds)
      (journal ++ moreEntries) where
  queries := by
    have hqueries := h.queries
    have hlaterQueries := hlater.queries
    simp only [List.countP_append]
    omega
  ways := by
    have hways := h.ways
    have hlaterWays := hlater.ways
    simp only [List.countP_append]
    omega
  answered := by
    rw [hlater.answered, h.answered, List.countP_append, Nat.add_assoc]
  executed := by
    rw [hlater.executed, h.executed, Entry.tally_append, Nat.add_assoc]
  failed := by
    rw [hlater.failed, h.failed, Entry.tally_append, Nat.add_assoc]
  built := by
    rw [hlater.built, h.built, Entry.tally_append, Nat.add_assoc]
  refreshed := by
    rw [hlater.refreshed, h.refreshed, Entry.tally_append, Nat.add_assoc]
  named := by
    rw [Entry.about_append, List.map_append, List.map_append, h.named, hlater.named]

end Counters

namespace Context

@[simp] theorem event_executedEntry (answer : Answer) :
    (executedEntry answer).event = "QUERY_EXECUTED" := rfl

@[simp] theorem event_failedEntry (e : ContextError) : (failedEntry e).event = "QUERY_FAILED" :=
  rfl

@[simp] theorem isAnswer_answered (answer : Answer) :
    (Reply.answered (.ok answer)).isAnswer = true := rfl

@[simp] theorem isAnswer_stopped (stop : Stop ContextError) :
    (Reply.answered (.error stop)).isAnswer = false := rfl

@[simp] theorem isAnswer_replyTo (context : Context) (change : Change) :
    (context.replyTo change).isAnswer = false := by
  cases change <;> rfl

/-- A refusal for want of an index is told by its code. -/
@[simp] theorem isShortcutFailure_refused (field : String) (e : IndexError) :
    (Reply.answered (.error (.fault (.query (.shortcutFailed field e))))).isShortcutFailure =
      true := by
  simp [Reply.isShortcutFailure, ContextError.code, QueryError.code]

/-- A filter that cannot be compiled is refused for another reason. -/
@[simp] theorem isShortcutFailure_filter (e : FilterError) :
    (Reply.answered (.error (.fault (.filter e)))).isShortcutFailure = false := by
  simp [Reply.isShortcutFailure, ContextError.code, FilterError.code]

/-- A query that is answered is not refused. -/
@[simp] theorem isShortcutFailure_answer (answer : Answer) :
    (Reply.answered (.ok answer)).isShortcutFailure = false := rfl

/-- Nor is one that panics. -/
@[simp] theorem isShortcutFailure_panic :
    (Reply.answered (.error .panic)).isShortcutFailure = false := rfl

/-- Nor is a change of the store. -/
@[simp] theorem isShortcutFailure_replyTo (context : Context) (change : Change) :
    (context.replyTo change).isShortcutFailure = false := by
  cases change <;> rfl

@[simp] theorem isPanic_panic : (Reply.answered (.error .panic)).isPanic = true := rfl

@[simp] theorem isPanic_fault (e : ContextError) :
    (Reply.answered (.error (.fault e))).isPanic = false := rfl

@[simp] theorem isPanic_answer (answer : Answer) :
    (Reply.answered (.ok answer)).isPanic = false := rfl

@[simp] theorem isPanic_replyTo (context : Context) (change : Change) :
    (context.replyTo change).isPanic = false := by
  cases change <;> rfl

/-- A query that is refused for want of an index is accounted for. -/
theorem accounted_refused (counters : Counters) (query : Query) (field : String) (e : IndexError) :
    counters.Accounted { counters with queriesFailed := counters.queriesFailed + 1 } [.query query]
      [.answered (.error (.fault (.query (.shortcutFailed field e))))] []
      ([query.receivedEntry, Query.shortcutFailedEntry field e] ++
        [failedEntry (.query (.shortcutFailed field e))]) := by
  constructor <;> simp [Call.isQuery, Nat.add_assoc]

/-- A query for which a way is chosen is accounted for, whether it is answered, its filter is
refused or it panics. -/
theorem accounted_chosen (counters : Counters) {query : Query} {store : Store}
    {cache : IndexCache} {ensured : IndexCache.Ensured}
    (provides : query.Provides store cache ensured) (plan : Plan) :
    let planned := Query.countScan plan.scan (Query.countBuild ensured.built counters)
    let builds := ((query.builtName? store cache).map (·, store.generation)).toList
    let journal := query.receivedEntry :: (ensured.journal ++ [query.plannedEntry plan])
    (∀ answer, counters.Accounted { planned with queriesExecuted := planned.queriesExecuted + 1 }
        [.query query] [.answered (.ok answer)] builds (journal ++ [executedEntry answer])) ∧
      (∀ e, counters.Accounted { planned with queriesFailed := planned.queriesFailed + 1 }
        [.query query] [.answered (.error (.fault (.filter e)))] builds
        (journal ++ [failedEntry (.filter e)])) ∧
      counters.Accounted planned [.query query] [.answered (.error .panic)] builds journal := by
  intro planned builds journal
  obtain ⟨hits, ids, scans, hway, hscan⟩ :=
    Query.countScan_eq plan.scan (Query.countBuild ensured.built counters)
  obtain ⟨name, noted, hname⟩ := provides.noted
  have hcompleted := noted.tally_completed
  have hexecuted : Entry.tally "QUERY_EXECUTED" ensured.journal = 0 :=
    noted.tally_other (by decide)
  have hfailed : Entry.tally "QUERY_FAILED" ensured.journal = 0 := noted.tally_other (by decide)
  have hrefreshed : Entry.tally "RESOLVER_REFRESH_COMPLETE" ensured.journal = 0 :=
    noted.tally_other (by decide)
  have hnamed : (Entry.about "INDEX_BUILD_COMPLETE" ensured.journal).map
      (·.fields.lookup "index") = builds.map fun build => some build.1.text := by
    simp only [builds, noted.about_completed, hname]
    split <;> simp
  -- Which of the three counters has gone up is of no account, only that their sum has.
  simp only [planned, hscan, Query.countBuild_eq]
  refine ⟨fun answer => ?_, fun e => ?_, ?_⟩
  all_goals
    constructor <;> simp [journal, Call.isQuery, hcompleted, hexecuted, hfailed, hrefreshed]
    case named => exact hnamed
    all_goals omega

section Engine

variable [PatternEngine]

/-- A query is accounted for. -/
theorem accounted_query (context : Context) (query : Query) :
    context.counters.Accounted (context.perform (.query query)).context.counters [.query query]
      [(context.perform (.query query)).outcome] (context.build? (.query query)).toList
      (context.perform (.query query)).journal := by
  have leaves := query.leaves_plan context.store context.cache context.counters
  simp only [perform, runQuery, planAndExecute, build?]
  generalize query.plan context.store context.cache context.counters = planned at leaves ⊢
  cases leaves with
  | @refused field value e asked invalid =>
    rw [Query.builtName?_of_invalid asked invalid]
    exact accounted_refused context.counters query field e
  | chosen provides plan =>
    have haccounted := accounted_chosen context.counters provides plan
    simp only
    cases query.execute context.store plan with
    | ok answer => exact haccounted.1 answer
    | error stop =>
      cases stop with
      | fault e => exact haccounted.2.1 e
      | panic => exact haccounted.2.2

/-- A refresh is accounted for. -/
theorem accounted_refresh (context : Context) (passes : List Pass) :
    context.counters.Accounted (context.perform (.refresh passes)).context.counters
      [.refresh passes] [(context.perform (.refresh passes)).outcome] []
      (context.perform (.refresh passes)).journal := by
  simp only [perform, refresh, Span.around_eq]
  split
  · constructor <;>
      simp [countRefresh, refreshSpan, Call.isQuery, Reply.isAnswer, Reply.isShortcutFailure,
        Reply.isPanic]
  · constructor <;>
      simp [refreshSpan, Event.name, Call.isQuery, Reply.isAnswer, Reply.isShortcutFailure,
        Reply.isPanic]

/-- Each call is accounted for. -/
theorem accounted_perform (context : Context) (call : Call) :
    context.counters.Accounted (context.perform call.step).context.counters [call]
      [(context.perform call.step).outcome] (context.build? call).toList
      (context.perform call.step).journal := by
  cases call with
  | write change =>
    constructor <;> simp [perform, Call.step, Call.isQuery, build?]
  | refresh passes => exact context.accounted_refresh passes
  | query query => exact context.accounted_query query

/-- All calls of a history are accounted for. -/
theorem accounted_performAll (context : Context) (calls : List Call) :
    context.counters.Accounted (context.performAll (calls.map Call.step)).context.counters calls
      (context.performAll (calls.map Call.step)).outcome (context.builds calls)
      (context.performAll (calls.map Call.step)).journal := by
  induction calls generalizing context with
  | nil => exact context.counters.accounted_refl
  | cons call rest ih => exact (context.accounted_perform call).append (ih _)

/-- Where there are matchers for the globs that queries ask for, no call panics. -/
theorem countP_isPanic_performAll (context : Context) {calls : List Call}
    (matchable : ∀ query, .query query ∈ calls → Filter.Matchable query.filter) :
    (context.performAll (calls.map Call.step)).outcome.countP Reply.isPanic = 0 := by
  induction calls generalizing context with
  | nil => rfl
  | cons call rest ih =>
    have hfirst : (context.perform call.step).outcome.isPanic = false := by
      cases call with
      | write change => exact isPanic_replyTo context change
      | refresh passes => rfl
      | query query =>
        have hquery := Query.runQuery_ne_panic (matchable query List.mem_cons_self) context
        simp only [Call.step, perform, Reply.isPanic]
        split <;> simp_all
    have hrest := ih (context.perform call.step).context fun query hmem =>
      matchable query (List.mem_cons_of_mem _ hmem)
    simpa [performAll, hfirst] using hrest

/-- A call keeps the cache or replaces the index that it builds. -/
theorem perform_call_cache (context : Context) (call : Call) :
    (context.build? call = none ∧ (context.perform call.step).context.cache = context.cache) ∨
      ∃ name, context.build? call = some (name, context.store.generation) ∧
        context.cache.Replaced context.store name (context.perform call.step).context.cache := by
  cases call with
  | write change => exact Or.inl ⟨rfl, rfl⟩
  | refresh passes =>
    refine Or.inl ⟨rfl, ?_⟩
    simp only [Call.step, perform, refresh]
    split <;> rfl
  | query query =>
    have hcache : (context.perform (Call.query query).step).context.cache =
        (query.plan context.store context.cache context.counters).cache :=
      (context.runQuery_eq query).2.2
    have leaves := query.leaves_plan context.store context.cache context.counters
    rw [hcache]
    generalize query.plan context.store context.cache context.counters = planned at leaves ⊢
    cases leaves with
    | refused asked invalid =>
      exact Or.inl ⟨by simp [build?, Query.builtName?_of_invalid asked invalid], rfl⟩
    | chosen provides plan =>
      rcases provides.builtName?_cases with ⟨hname, hkept⟩ | ⟨name, hname, replaced⟩
      · exact Or.inl ⟨by simp [build?, hname], hkept⟩
      · exact Or.inr ⟨name, by simp [build?, hname], replaced⟩

/-- The index that is kept under a name was built at some generation of the store or later. -/
def Keeps (context : Context) (name : IndexName) (generation : Nat) : Prop :=
  ∃ index, context.cache.indexes.get? name = some index ∧
    generation ≤ index.generation ∧ index.generation ≤ context.store.generation

variable {context : Context} {name : IndexName} {generation : Nat} {call : Call}

/-- What a call builds is an index of the store as it is, in place of one that is not in use. -/
theorem replaced_of_build? (h : context.build? call = some (name, generation)) :
    generation = context.store.generation ∧
      context.cache.Replaced context.store name (context.perform call.step).context.cache := by
  rcases context.perform_call_cache call with ⟨hnone, -⟩ | ⟨other, hbuild, replaced⟩
  · rw [hnone] at h
    contradiction
  · obtain ⟨rfl, rfl⟩ := Prod.mk.inj (Option.some.inj (hbuild.symm.trans h))
    exact ⟨rfl, replaced⟩

/-- What a call builds is kept. -/
theorem keeps_of_build? (h : context.build? call = some (name, generation)) :
    (context.perform call.step).context.Keeps name generation := by
  obtain ⟨rfl, replaced⟩ := replaced_of_build? h
  obtain ⟨index, hindex, hcache⟩ := replaced.current
  refine ⟨index, by simp [hcache], Nat.le_of_eq hindex.symm, ?_⟩
  rw [hindex]
  exact context.generation_le_perform call.step

/-- A call does not replace an index by an older one. -/
theorem Keeps.perform (h : context.Keeps name generation) (call : Call) :
    (context.perform call.step).context.Keeps name generation := by
  obtain ⟨index, hindex, hsince, huntil⟩ := h
  have hgeneration := context.generation_le_perform call.step
  rcases context.perform_call_cache call with ⟨-, hcache⟩ | ⟨other, -, replaced⟩
  · exact ⟨index, hcache ▸ hindex, hsince, Nat.le_trans huntil hgeneration⟩
  · obtain ⟨new, hnew, hcache⟩ := replaced.current
    by_cases hname : other = name
    · -- The new index is of the store as it is, and the old one cannot be younger than that.
      subst hname
      refine ⟨new, by simp [hcache], ?_, ?_⟩ <;> omega
    · exact ⟨index, by simp [hcache, hname, hindex], hsince, Nat.le_trans huntil hgeneration⟩

/-- An index that is kept is built anew only when the store has changed, and never where indexes
are used for ever. -/
theorem Keeps.lt_of_build? (h : context.Keeps name generation) {now : Nat}
    (hbuild : context.build? call = some (name, now)) :
    context.cache.policy = .generation ∧ generation < now := by
  obtain ⟨index, hindex, hsince, huntil⟩ := h
  obtain ⟨rfl, replaced⟩ := replaced_of_build? hbuild
  have hstale := replaced.unused index hindex
  unfold IndexCache.isFresh Freshness.accepts at hstale
  split at hstale
  · contradiction
  · rename_i hpolicy
    have hchanged : index.generation ≠ context.store.generation := by simpa using hstale
    exact ⟨hpolicy, by omega⟩

/-- The same holds for the indexes that later calls build. -/
theorem Keeps.lt_of_mem_builds (h : context.Keeps name generation) (calls : List Call) {now : Nat}
    (hmem : (name, now) ∈ context.builds calls) :
    context.cache.policy = .generation ∧ generation < now := by
  induction calls generalizing context with
  | nil => simp [builds] at hmem
  | cons call rest ih =>
    rcases List.mem_append.mp hmem with hnow | hlater
    · exact h.lt_of_build? (Option.mem_toList.mp hnow)
    · rw [← context.perform_policy call.step]
      exact ih (h.perform call) hlater

/-- Between two changes of the store no index is built twice under one name, and where indexes
are used for ever none ever is. -/
theorem pairwise_builds (context : Context) (calls : List Call) :
    (context.builds calls).Pairwise fun first second =>
      first.1 = second.1 → context.cache.policy = .generation ∧ first.2 < second.2 := by
  induction calls generalizing context with
  | nil => exact .nil
  | cons call rest ih =>
    have hpolicy := context.perform_policy call.step
    -- What this call builds is kept while the rest is done, so the rest builds it anew only later.
    refine List.pairwise_append.mpr ⟨?_, hpolicy ▸ ih _, ?_⟩
    · cases context.build? call <;> simp
    · rintro ⟨name, generation⟩ hfirst ⟨other, now⟩ hsecond hname
      obtain rfl : name = other := hname
      have hkeeps := keeps_of_build? (Option.mem_toList.mp hfirst)
      rw [← hpolicy]
      exact hkeeps.lt_of_mem_builds rest hsecond

/-- In every history of queries, refreshes and changes of the store the counters account for
every query: it is counted as executed if it was answered and else as failed, unless it panicked,
which takes a glob without a matcher, and under one of the three ways to answer unless it was
refused for want of an index. Where details are written, what is counted as done has been written
as often. Each index that is built is counted, and it is built anew under its name only where
indexes are used until the store has changed, and only then. -/
theorem performAll_accounts (store : Store) (settings : Settings) (calls : List Call) :
    let start := create store settings
    let effect := start.performAll (calls.map Call.step)
    let counters := effect.context.counters
    let written := Entry.written settings.least (creationJournal settings ++ effect.journal)
    (counters.queriesExecuted + counters.queriesFailed + effect.outcome.countP Reply.isPanic =
        calls.countP Call.isQuery) ∧
      ((∀ query, .query query ∈ calls → Filter.Matchable query.filter) →
        counters.queriesExecuted + counters.queriesFailed = calls.countP Call.isQuery) ∧
      (counters.queriesExecuted = effect.outcome.countP Reply.isAnswer) ∧
      (counters.indexShortcutHits + counters.idShortcutHits + counters.fullScans +
          effect.outcome.countP Reply.isShortcutFailure = calls.countP Call.isQuery) ∧
      (settings.least = .trace →
        Entry.tally "QUERY_EXECUTED" written = counters.queriesExecuted ∧
          Entry.tally "QUERY_FAILED" written = counters.queriesFailed ∧
          Entry.tally "INDEX_BUILD_COMPLETE" written = counters.indexBuilds ∧
          Entry.tally "RESOLVER_REFRESH_COMPLETE" written = counters.resolverRefreshes) ∧
      (start.builds calls).length = counters.indexBuilds ∧
      ((Entry.about "INDEX_BUILD_COMPLETE" effect.journal).map (·.fields.lookup "index") =
        (start.builds calls).map fun build => some build.1.text) ∧
      (start.builds calls).Pairwise fun first second =>
        first.1 = second.1 → settings.freshness = .generation ∧ first.2 < second.2 := by
  intro start effect counters written
  have accounted : Counters.zero.Accounted counters calls effect.outcome (start.builds calls)
      effect.journal := start.accounted_performAll calls
  have hwritten (hleast : settings.least = .trace) {event : String}
      (hother : event ≠ "CONFIG_LOADED") :
      Entry.tally event written = Entry.tally event effect.journal := by
    simp [written, hleast, creationJournal, loadedEntry, Event.name, hother.symm]
  have hqueries : counters.queriesExecuted + counters.queriesFailed +
      effect.outcome.countP Reply.isPanic = calls.countP Call.isQuery := by
    simpa [Counters.zero] using accounted.queries
  refine ⟨hqueries, fun matchable => ?_, ?_, ?_, fun hleast => ⟨?_, ?_, ?_, ?_⟩, ?_,
    accounted.named, start.pairwise_builds calls⟩
  · rwa [start.countP_isPanic_performAll matchable, Nat.add_zero] at hqueries
  · simpa [Counters.zero] using accounted.answered
  · simpa [Counters.zero] using accounted.ways
  · rw [hwritten hleast (by decide), accounted.executed]
    exact (Nat.zero_add _).symm
  · rw [hwritten hleast (by decide), accounted.failed]
    exact (Nat.zero_add _).symm
  · rw [hwritten hleast (by decide), accounted.built]
    exact (Nat.zero_add _).symm
  · rw [hwritten hleast (by decide), accounted.refreshed]
    exact (Nat.zero_add _).symm
  · have hlength := congrArg List.length accounted.named
    rw [List.length_map, List.length_map] at hlength
    rw [← hlength, accounted.built]
    exact (Nat.zero_add _).symm

end Engine

/-- A query for all posts whose contributed field equals a text. -/
def fieldQuery (field text : String) : Query :=
  ⟨["Post"], Query.fieldEquality field (.string text), none, false, Redirects.none⟩

/-- A store with one post that has a tag. -/
def taggedPost : Store := Store.empty.change (IndexCache.addTagged "a" (.string "x"))

/-- Settings under which details are written. -/
def detailed : Settings := ⟨.sequential, .generation, .trace⟩

/-- Two tags are asked for in turn, and the second one again when a post with it has come in.
Then a query is refused for its filter and one for its field, and the overlays are refreshed. -/
def taggedCalls : List Call :=
  [.query (fieldQuery "tag" "x"), .query (fieldQuery "tag" "y"),
    .write (IndexCache.addTagged "b" (.string "y")), .query (fieldQuery "tag" "y"),
    .query { fieldQuery "tag" "x" with filter := .array [] }, .query (fieldQuery "" "x"),
    .refresh [⟨"Post", fun _ => ⟨0, .ok .null⟩, fun _ => 0⟩]]

open scoped PatternEngine

/-- Of these calls three answers and two failures are counted, and an index is built for the
first query and when the store has changed. There are as many entries. -/
theorem performAll_accounts_tagged :
    let effect := (create taggedPost detailed).performAll (taggedCalls.map Call.step)
    let written := Entry.written detailed.least (creationJournal detailed ++ effect.journal)
    effect.context.counters = ⟨3, 2, 2, 0, 2, 2, 1⟩ ∧
      (create taggedPost detailed).builds taggedCalls =
        [(⟨"Post", "fields/tag"⟩, 1), (⟨"Post", "fields/tag"⟩, 2)] ∧
      Entry.tally "QUERY_EXECUTED" written = 3 ∧ Entry.tally "QUERY_FAILED" written = 2 ∧
      Entry.tally "INDEX_BUILD_COMPLETE" written = 2 ∧
      Entry.tally "RESOLVER_REFRESH_COMPLETE" written = 1 := by
  have hcounters : ((create taggedPost detailed).performAll
      (taggedCalls.map Call.step)).context.counters = ⟨3, 2, 2, 0, 2, 2, 1⟩ := by
    decide +kernel
  obtain ⟨-, -, -, -, hlines, -⟩ := performAll_accounts taggedPost detailed taggedCalls
  have ⟨hexecuted, hfailed, hbuilt, hrefreshed⟩ := hlines rfl
  rw [hcounters] at hexecuted hfailed hbuilt hrefreshed
  exact ⟨hcounters, by decide +kernel, hexecuted, hfailed, hbuilt, hrefreshed⟩

end Context

end TypedStore
