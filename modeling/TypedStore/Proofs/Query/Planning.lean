import TypedStore.Proofs.Journal.Lines
import TypedStore.Proofs.Query.Answer

/-!
# What planning leaves

Beside its outcome planning leaves a cache, counters and entries for the journal. Each way to
answer has a counter of its own, and one of them goes up unless the query is refused. The
entries are those of the index that is asked for, between one for the query that has come in
and one for what has become of it.
-/

namespace TypedStore

namespace IndexCache

/-- Asking for an index leaves no entry if the index is in use. If it is built, an entry tells
that the old one is out of date, if there is one, and two tell that building begins and ends. -/
inductive Noted (store : Store) (name : IndexName) : Ensured → Prop
  | kept (cache : IndexCache) : Noted store name ⟨cache, false, []⟩
  | built (cache : IndexCache) (more : List (String × String)) :
      Noted store name
        ⟨cache, true, [(buildSpan name).begun, (buildSpan name).completed more]⟩
  | rebuilt (cache : IndexCache) (old : FieldIndex) (more : List (String × String)) :
      Noted store name
        ⟨cache, true,
          [staleEntry name old store, (buildSpan name).begun, (buildSpan name).completed more]⟩

variable {store : Store} {name : IndexName} {ensured : Ensured}

/-- What asking for an index leaves is one of these. -/
theorem noted_of_ensure {cache : IndexCache} {text : String} {types : List String}
    {path : FieldPath} (parsed : FieldPath.parse text = .ok path)
    (h : cache.ensure store text types = .ok ensured) :
    Noted store (IndexName.of types path) ensured := by
  simp only [ensure, parsed] at h
  split at h
  · obtain rfl := Except.ok.inj h
    exact .built ..
  · split at h
    · obtain rfl := Except.ok.inj h
      exact .kept cache
    · obtain rfl := Except.ok.inj h
      exact .rebuilt ..

/-- An index that is built is noted once as completed, by its name. -/
theorem Noted.about_completed (noted : Noted store name ensured) :
    (Entry.about "INDEX_BUILD_COMPLETE" ensured.journal).map (·.fields.lookup "index") =
      if ensured.built then [some name.text] else [] := by
  cases noted <;> simp [buildSpan, staleEntry, Event.name, Span.completed]

/-- Each building of an index is noted once as completed. -/
theorem Noted.tally_completed (noted : Noted store name ensured) :
    Entry.tally "INDEX_BUILD_COMPLETE" ensured.journal = if ensured.built then 1 else 0 := by
  have hlength := congrArg List.length noted.about_completed
  rw [List.length_map] at hlength
  rw [Entry.tally, hlength]
  split <;> rfl

/-- Of other events than those of an index nothing is noted. -/
theorem Noted.tally_other (noted : Noted store name ensured) {event : String}
    (hother : event ∉ ["INDEX_STALE", "INDEX_BUILD_BEGIN", "INDEX_BUILD_COMPLETE"]) :
    Entry.tally event ensured.journal = 0 := by
  simp only [List.mem_cons, List.not_mem_nil, or_false, not_or] at hother
  obtain ⟨hstale, hbegin, hcomplete⟩ := hother
  cases noted <;>
    simp [buildSpan, staleEntry, Event.name, Ne.symm hstale, Ne.symm hbegin, Ne.symm hcomplete]

/-- An index of the store has come in under a name, under which none was in use. -/
structure Replaced (before : IndexCache) (store : Store) (name : IndexName) (after : IndexCache) :
    Prop where
  unused : ∀ index, before.indexes.get? name = some index → before.isFresh index store = false
  current : ∃ index, index.generation = store.generation ∧
    after.indexes = before.indexes.set name index

end IndexCache

namespace Query

variable {query : Query} {store : Store} {cache : IndexCache} {counters : Counters}

/-- The name of the index that planning builds, if it builds one. -/
def builtName? (query : Query) (store : Store) (cache : IndexCache) : Option IndexName :=
  match query.fieldShortcut? with
  | none => none
  | some (field, _) =>
    match FieldPath.ofField field with
    | .error _ => none
    | .ok path =>
      let name := IndexName.of query.types path
      if (cache.indexes.get? name).any fun index => cache.isFresh index store then none
      else some name

/-- For a field that can have no index, planning builds none. -/
theorem builtName?_of_invalid {field : String} {value : Json} {e : IndexError}
    (asked : query.fieldShortcut? = some (field, value))
    (invalid : FieldPath.ofField field = .error e) : query.builtName? store cache = none := by
  simp [builtName?, asked, invalid]

/-- Count a way to answer a query. -/
def countScan (scan : ScanKind) (counters : Counters) : Counters :=
  match scan with
  | .indexed => { counters with indexShortcutHits := counters.indexShortcutHits + 1 }
  | .byId => { counters with idShortcutHits := counters.idShortcutHits + 1 }
  | .full => { counters with fullScans := counters.fullScans + 1 }

/-- One of three counters goes up, by one, and no other one does. -/
theorem countScan_eq (scan : ScanKind) (counters : Counters) :
    ∃ hits ids scans, hits + ids + scans = 1 ∧
      countScan scan counters =
        { counters with
          indexShortcutHits := counters.indexShortcutHits + hits
          idShortcutHits := counters.idShortcutHits + ids
          fullScans := counters.fullScans + scans } := by
  cases scan with
  | indexed => exact ⟨1, 0, 0, rfl, rfl⟩
  | byId => exact ⟨0, 1, 0, rfl, rfl⟩
  | full => exact ⟨0, 0, 1, rfl, rfl⟩

/-- The counter of indexes goes up if one was built, and no other one does. -/
theorem countBuild_eq (built : Bool) (counters : Counters) :
    countBuild built counters =
      { counters with indexBuilds := counters.indexBuilds + if built then 1 else 0 } := by
  cases built <;> rfl

@[simp] theorem event_receivedEntry (query : Query) :
    query.receivedEntry.event = "QUERY_RECEIVED" := rfl

@[simp] theorem event_plannedEntry (query : Query) (plan : Plan) :
    (query.plannedEntry plan).event = "QUERY_PLANNED" := rfl

@[simp] theorem event_shortcutFailedEntry (field : String) (e : IndexError) :
    (shortcutFailedEntry field e).event = "INDEX_SHORTCUT_FAILED" := rfl

/-- Planning keeps the cache where use is made of an index, or replaces this index. -/
theorem IndexUse.builtName?_cases (use : query.IndexUse store cache) :
    (query.builtName? store cache = none ∧ use.ensured.built = false ∧
        use.ensured.cache = cache) ∨
      (query.builtName? store cache = some (IndexName.of query.types use.path) ∧
        use.ensured.built = true ∧
        cache.Replaced store (IndexName.of query.types use.path) use.ensured.cache) := by
  have hname : query.builtName? store cache =
      let name := IndexName.of query.types use.path
      if (cache.indexes.get? name).any fun index => cache.isFresh index store then none
      else some name := by
    simp only [builtName?, use.asked, use.valid]
  rcases cache.ensure_cases store query.types (FieldPath.parse_text_of_parse use.valid) with
    ⟨index, hindex, hfresh, hensure⟩ | ⟨unused, before, hensure⟩
  · rw [← Except.ok.inj (hensure.symm.trans use.provided)]
    exact Or.inl ⟨by simp [hname, hindex, hfresh], rfl, rfl⟩
  · rw [← Except.ok.inj (hensure.symm.trans use.provided)]
    refine Or.inr ⟨?_, rfl, unused, _, rfl, rfl⟩
    rw [hname]
    refine if_neg fun hused => ?_
    obtain ⟨index, hindex, hfresh⟩ := (Option.any_eq_true _ _).mp hused
    simp [unused index hindex] at hfresh

/-- What asking the cache for an index gives, if the query asks for one. -/
inductive Provides (query : Query) (store : Store) (cache : IndexCache) :
    IndexCache.Ensured → Prop
  | unasked (h : query.fieldShortcut? = none) : Provides query store cache ⟨cache, false, []⟩
  | asked (use : query.IndexUse store cache) : Provides query store cache use.ensured

/-- Planning keeps the cache or replaces the index that it builds. -/
theorem Provides.builtName?_cases {ensured : IndexCache.Ensured}
    (h : query.Provides store cache ensured) :
    (query.builtName? store cache = none ∧ ensured.cache = cache) ∨
      ∃ name, query.builtName? store cache = some name ∧
        cache.Replaced store name ensured.cache := by
  cases h with
  | unasked h => exact Or.inl ⟨by simp [builtName?, h], rfl⟩
  | asked use =>
    rcases use.builtName?_cases with ⟨hname, -, hcache⟩ | ⟨hname, -, replaced⟩
    · exact Or.inl ⟨hname, hcache⟩
    · exact Or.inr ⟨_, hname, replaced⟩

/-- Planning notes of one index at most, and of the one that it builds. -/
theorem Provides.noted {ensured : IndexCache.Ensured} (h : query.Provides store cache ensured) :
    ∃ name, IndexCache.Noted store name ensured ∧
      query.builtName? store cache = if ensured.built then some name else none := by
  cases h with
  | unasked h => exact ⟨⟨"", ""⟩, .kept cache, by simp [builtName?, h]⟩
  | asked use =>
    have hparse := FieldPath.parse_text_of_parse use.valid
    refine ⟨_, IndexCache.noted_of_ensure hparse use.provided, ?_⟩
    rcases use.builtName?_cases with ⟨hname, hbuilt, -⟩ | ⟨hname, hbuilt, -⟩ <;>
      simp [hname, hbuilt]

/-- What planning leaves. -/
inductive Leaves (query : Query) (store : Store) (cache : IndexCache) (counters : Counters) :
    Planned Plan → Prop
  /-- The field that is asked for can have no index: nothing is counted. -/
  | refused {field : String} {value : Json} {e : IndexError}
      (asked : query.fieldShortcut? = some (field, value))
      (invalid : FieldPath.ofField field = .error e) :
      Leaves query store cache counters
        ⟨cache, counters, [query.receivedEntry, shortcutFailedEntry field e],
          .error (.shortcutFailed field e)⟩
  | chosen {ensured : IndexCache.Ensured} (provides : query.Provides store cache ensured)
      (plan : Plan) :
      Leaves query store cache counters
        ⟨ensured.cache, countScan plan.scan (countBuild ensured.built counters),
          query.receivedEntry :: (ensured.journal ++ [query.plannedEntry plan]), .ok plan⟩

/-- Past the indexes, the way that is chosen is counted. -/
theorem planUnindexed_counters (query : Query) (store : Store) (counters : Counters) :
    (query.planUnindexed store counters).1 =
      countScan (query.planUnindexed store counters).2.scan counters := by
  unfold planUnindexed
  cases hbyId : query.planById store with
  | none => rfl
  | some plan =>
    unfold planById at hbyId
    split at hbyId
    · contradiction
    · obtain ⟨stamped, -, rfl⟩ := Option.map_eq_some_iff.mp hbyId
      rfl

/-- Planning leaves one of these. -/
theorem leaves_plan (query : Query) (store : Store) (cache : IndexCache) (counters : Counters) :
    query.Leaves store cache counters (query.plan store cache counters) := by
  have hindexed := query.indexPlanning_planIndexed store cache counters
  unfold plan
  generalize query.planIndexed store cache counters = planned at hindexed ⊢
  cases hindexed with
  | unasked h =>
    simp only [planUnindexed_counters]
    exact .chosen (.unasked h) _
  | refused asked invalid => exact .refused asked invalid
  | hit use found => exact .chosen (.asked use) ⟨.indexed, _, _⟩
  | miss use unfound =>
    simp only [planUnindexed_counters]
    exact .chosen (.asked use) _

end Query

end TypedStore
