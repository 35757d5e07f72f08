import TypedStore.Context.Basic
import TypedStore.Proofs.Index.Lookup
import TypedStore.Proofs.Query.Selection

/-!
# How a query is answered

A query is answered from an index, by looking up an id or by a scan. For each way this
file says what the answer is made of, so that nothing else has to look into the
planning and the execution of queries.
-/

namespace TypedStore

variable {query : Query} {store : Store} {cache : IndexCache} {stamped : StampedNode}

namespace FieldPath

/-- The path of a contributed field is not the path of ids. -/
theorem text_ne_id_of_ofField {name : String} {path : FieldPath} (h : ofField name = .ok path) :
    path.text ≠ "id" := by
  rw [text_of_parse h]
  exact contributed_append_ne_id name

end FieldPath

namespace Query

/-- How a query that asks for equality of a contributed field makes use of an index. -/
structure IndexUse (query : Query) (store : Store) (cache : IndexCache) where
  field : String
  value : Json
  path : FieldPath
  ensured : IndexCache.Ensured
  asked : query.fieldShortcut? = some (field, value)
  valid : FieldPath.ofField field = .ok path
  provided : cache.ensure store path.text query.types = .ok ensured

/-- There is only one way to make use of an index. -/
theorem IndexUse.unique (a b : query.IndexUse store cache) : a = b := by
  obtain ⟨field, value, path, ensured, hasked, hvalid, hprovided⟩ := a
  obtain ⟨_, _, _, _, hasked', hvalid', hprovided'⟩ := b
  obtain ⟨rfl, rfl⟩ := Prod.mk.inj (Option.some.inj (hasked.symm.trans hasked'))
  obtain rfl := Except.ok.inj (hvalid.symm.trans hvalid')
  obtain rfl := Except.ok.inj (hprovided.symm.trans hprovided')
  rfl

/-- A query that asks for no equality of a contributed field makes no use of an index. -/
theorem IndexUse.asked_ne_none (use : query.IndexUse store cache) :
    query.fieldShortcut? ≠ none := by
  rw [use.asked]
  exact Option.some_ne_none _

/-- A query for a field that can have no index makes no use of one. -/
theorem IndexUse.ofField_ne_error (use : query.IndexUse store cache) {field : String}
    {value : Json} (asked : query.fieldShortcut? = some (field, value)) (e : IndexError) :
    FieldPath.ofField field ≠ .error e := by
  obtain ⟨rfl, -⟩ := Prod.mk.inj (Option.some.inj (asked.symm.trans use.asked))
  rw [use.valid]
  exact fun h => by contradiction

/-- What the index has for the value. -/
def IndexUse.found? (use : query.IndexUse store cache) : Option (List StampedNode) :=
  use.ensured.cache.lookup? store use.path.text use.value query.types

/-- The ways in which planning with an index ends. -/
inductive IndexPlanning (query : Query) (store : Store) (cache : IndexCache)
    (counters : Counters) : Planned (Option Plan) → Prop
  /-- No equality of a contributed field is asked for. -/
  | unasked (h : query.fieldShortcut? = none) :
      IndexPlanning query store cache counters ⟨cache, counters, [], .ok none⟩
  /-- The field can have no index. -/
  | refused {field : String} {value : Json} {e : IndexError}
      (asked : query.fieldShortcut? = some (field, value))
      (invalid : FieldPath.ofField field = .error e) :
      IndexPlanning query store cache counters (shortcutFailed cache counters field e)
  | hit (use : query.IndexUse store cache) {node : StampedNode} {nodes : List StampedNode}
      (found : use.found? = some (node :: nodes)) :
      IndexPlanning query store cache counters
        { cache := use.ensured.cache
          counters :=
            { countBuild use.ensured.built counters with
              indexShortcutHits :=
                (countBuild use.ensured.built counters).indexShortcutHits + 1 }
          journal := use.ensured.journal
          outcome :=
            .ok (some ⟨.indexed, node :: nodes, some (IndexName.of query.types use.path).text⟩) }
  | miss (use : query.IndexUse store cache)
      (unfound : ∀ node nodes, use.found? ≠ some (node :: nodes)) :
      IndexPlanning query store cache counters
        ⟨use.ensured.cache, countBuild use.ensured.built counters, use.ensured.journal, .ok none⟩

/-- Planning with an index ends in one of these ways. -/
theorem indexPlanning_planIndexed (query : Query) (store : Store) (cache : IndexCache)
    (counters : Counters) :
    IndexPlanning query store cache counters (query.planIndexed store cache counters) := by
  unfold planIndexed
  cases hasked : query.fieldShortcut? with
  | none => exact .unasked hasked
  | some shortcut =>
    obtain ⟨field, value⟩ := shortcut
    cases hpath : FieldPath.ofField field with
    | error e => simpa only [hpath] using .refused hasked hpath
    | ok path =>
      obtain ⟨ensured, hensured⟩ :
          ∃ ensured, cache.ensure store path.text query.types = .ok ensured := by
        rcases cache.ensure_cases store query.types (FieldPath.parse_text_of_parse hpath) with
          ⟨_, _, _, h⟩ | ⟨_, _, h⟩ <;> exact ⟨_, h⟩
      let use : query.IndexUse store cache := ⟨field, value, path, ensured, hasked, hpath, hensured⟩
      simp only [hpath, hensured]
      split
      · rename_i node nodes hfound
        exact .hit use hfound
      · rename_i hfound
        exact .miss use hfound

/-- Planning goes past the indexes: no field is asked for that can have none, and no index has
a node for the value that is asked for. -/
structure Unindexed (query : Query) (store : Store) (cache : IndexCache) : Prop where
  accepted : ∀ field value e, query.fieldShortcut? = some (field, value) →
    FieldPath.ofField field ≠ .error e
  unfound : ∀ (use : query.IndexUse store cache) (node) (nodes),
    use.found? ≠ some (node :: nodes)

/-- The ways in which planning ends. -/
inductive Planning (query : Query) (store : Store) (cache : IndexCache) :
    Except QueryError Plan → Prop
  /-- The field that is asked for can have no index. -/
  | refused {field : String} {value : Json} {e : IndexError}
      (asked : query.fieldShortcut? = some (field, value))
      (invalid : FieldPath.ofField field = .error e) :
      Planning query store cache (.error (.shortcutFailed field e))
  | indexed (use : query.IndexUse store cache) {node : StampedNode} {nodes : List StampedNode}
      (found : use.found? = some (node :: nodes)) :
      Planning query store cache
        (.ok ⟨.indexed, node :: nodes, some (IndexName.of query.types use.path).text⟩)
  | byId (unindexed : query.Unindexed store cache) {id : String} {stamped : StampedNode}
      (asked : idEquality? query.filter = some id)
      (found : store.findAmong? id query.types = some stamped) :
      Planning query store cache (.ok ⟨.byId, [stamped], none⟩)
  | full (unindexed : query.Unindexed store cache) (unidentified : query.planById store = none) :
      Planning query store cache (.ok ⟨.full, query.candidates store, none⟩)

/-- Past the indexes, planning looks up an id or leaves a scan to do. -/
theorem Unindexed.planning (unindexed : query.Unindexed store cache) (counters : Counters) :
    query.Planning store cache (.ok (query.planUnindexed store counters).2) := by
  unfold planUnindexed
  cases hbyId : query.planById store with
  | none => exact .full unindexed hbyId
  | some byId =>
    unfold planById at hbyId
    split at hbyId
    · contradiction
    · rename_i id hid
      obtain ⟨stamped, hfound, rfl⟩ := Option.map_eq_some_iff.mp hbyId
      exact .byId unindexed hid hfound

/-- Planning ends in one of these ways. -/
theorem planning_plan (query : Query) (store : Store) (cache : IndexCache) (counters : Counters) :
    query.Planning store cache (query.plan store cache counters).outcome := by
  have hindexed := query.indexPlanning_planIndexed store cache counters
  simp only [plan]
  generalize query.planIndexed store cache counters = planned at hindexed ⊢
  cases hindexed with
  | unasked h =>
    exact Unindexed.planning ⟨by simp [h], fun use => absurd h use.asked_ne_none⟩ _
  | refused asked invalid => exact .refused asked invalid
  | hit use found => exact .indexed use found
  | miss use unfound =>
    exact Unindexed.planning
      ⟨fun _ _ _ asked => use.ofField_ne_error asked _, fun other => other.unique use ▸ unfound⟩ _

/-- Planning asks the cache for the index of which use is made; if there is none, it keeps
the cache. -/
theorem plan_cache (query : Query) (store : Store) (cache : IndexCache) (counters : Counters) :
    (∃ use : query.IndexUse store cache,
        (query.plan store cache counters).cache = use.ensured.cache) ∨
      (query.IndexUse store cache → False) ∧
        (query.plan store cache counters).cache = cache := by
  have hcache : (query.plan store cache counters).cache =
      (query.planIndexed store cache counters).cache := by
    simp only [plan]
    split <;> rfl
  have hindexed := query.indexPlanning_planIndexed store cache counters
  rw [hcache]
  generalize query.planIndexed store cache counters = planned at hindexed ⊢
  cases hindexed with
  | unasked h => exact Or.inr ⟨fun use => use.asked_ne_none h, rfl⟩
  | refused asked invalid => exact Or.inr ⟨fun use => use.ofField_ne_error asked _ invalid, rfl⟩
  | hit use | miss use => exact Or.inl ⟨use, rfl⟩

/-- Where use is made of an index, planning asks the cache for it. -/
theorem IndexUse.plan_cache_eq (use : query.IndexUse store cache) (counters : Counters) :
    (query.plan store cache counters).cache = use.ensured.cache := by
  rcases query.plan_cache store cache counters with ⟨other, h⟩ | ⟨hnone, -⟩
  · rw [h, other.unique use]
  · exact (hnone use).elim

variable [PatternEngine]

/-- The ways in which a query is answered. -/
inductive Answered (query : Query) (store : Store) (cache : IndexCache) : Answer → Prop
  | indexed (use : query.IndexUse store cache) {node : StampedNode} {nodes : List StampedNode}
      (found : use.found? = some (node :: nodes)) :
      Answered query store cache
        { outcome := .found (
            if query.firstOnly then (firstScanned query.types (node :: nodes)).toList
            else node :: nodes)
          scan := .indexed
          scanned := (node :: nodes).length }
  | byId {id : String} {stamped : StampedNode} (asked : idEquality? query.filter = some id)
      (found : store.findAmong? id query.types = some stamped) :
      Answered query store cache ⟨.found [stamped], .byId, 1⟩
  | scanned {outcome : Outcome} {scanned : Nat}
      (unindexed : ∀ (use : query.IndexUse store cache) (node) (nodes),
        use.found? ≠ some (node :: nodes))
      (unidentified : query.planById store = none)
      (h : query.scan store (query.candidates store) = .ok (outcome, scanned)) :
      Answered query store cache ⟨outcome, .full, scanned⟩

/-- A plan that holds the answer or has to be scanned is answered in one of these ways. -/
theorem answered_of_plan {chosen : Plan} {answer : Answer}
    (planning : query.Planning store cache (.ok chosen))
    (hanswer : query.execute store chosen = .ok answer) : query.Answered store cache answer := by
  cases planning with
  | indexed use found =>
    obtain rfl := Except.ok.inj hanswer
    simpa using .indexed use found
  | byId _ asked found =>
    obtain rfl := Except.ok.inj hanswer
    simpa using .byId asked found
  | full unindexed unidentified =>
    simp only [execute] at hanswer
    cases hscan : query.scan store (query.candidates store) with
    | error e =>
      rw [hscan] at hanswer
      have hfailed : Except.error e = Except.ok answer := hanswer
      contradiction
    | ok result =>
      rw [hscan] at hanswer
      obtain rfl := Except.ok.inj hanswer
      exact .scanned unindexed.unfound unidentified hscan

/-- The ways in which a scan with a compiled filter ends. -/
inductive Scanned (query : Query) (store : Store) (candidates : List StampedNode)
    (filter : Filter) : Outcome × Nat → Prop
  | byId {id : String} (asked : idEquality? query.filter = some id) :
      Scanned query store candidates filter (query.answerById store id, 1)
  | first (unasked : idEquality? query.filter = none) (first : query.firstOnly = true) :
      Scanned query store candidates filter
        (.found (scanFirst filter candidates).1.toList, (scanFirst filter candidates).2)
  | none (unasked : idEquality? query.filter = none) (many : query.firstOnly = false)
      (nothing : candidates.filter filter.matchesNode = []) :
      Scanned query store candidates filter (.notFound, candidates.length)
  | many (unasked : idEquality? query.filter = none) (many : query.firstOnly = false)
      (something : candidates.filter filter.matchesNode ≠ []) :
      Scanned query store candidates filter
        (.found (query.sorted (candidates.filter filter.matchesNode)), candidates.length)

/-- A scan that does not fail has compiled the filter and ends in one of these ways. -/
theorem scanned_of_scan {candidates : List StampedNode} {result : Outcome × Nat}
    (h : query.scan store candidates = .ok result) :
    ∃ filter, Filter.compile query.redirects query.filter = .ok filter ∧
      query.Scanned store candidates filter result := by
  unfold scan at h
  split at h
  · contradiction
  · rename_i filter hcompile
    refine ⟨filter, hcompile, ?_⟩
    split at h
    · rename_i id hasked
      obtain rfl := Except.ok.inj h
      exact .byId hasked
    · rename_i hunasked
      split at h
      · rename_i hfirst
        obtain rfl := Except.ok.inj h
        exact .first hunasked hfirst
      · rename_i hmany
        have hmany : query.firstOnly = false := Bool.eq_false_iff.mpr hmany
        split at h
        · rename_i hnothing
          obtain rfl := Except.ok.inj h
          exact .none hunasked hmany hnothing
        · rename_i node nodes hsomething
          obtain rfl := Except.ok.inj h
          rw [← hsomething]
          exact .many hunasked hmany (by simp [hsomething])

/-- A node in an answer is a current one of the types of the query, or an index had it. -/
theorem Answered.mem_cases {answer : Answer} (consistent : store.Consistent)
    (answered : query.Answered store cache answer) (hmem : stamped ∈ answer.outcome.nodes) :
    (store.Current stamped ∧ stamped.type ∈ query.types) ∨
      ∃ (use : query.IndexUse store cache) (found : _),
        use.found? = some found ∧ stamped ∈ found := by
  cases answered with
  | indexed use found =>
    refine Or.inr ⟨use, _, found, ?_⟩
    simp only [Outcome.nodes] at hmem
    split at hmem
    · exact mem_of_firstScanned (Option.mem_toList.mp hmem)
    · exact hmem
  | byId asked found =>
    obtain rfl := List.mem_singleton.mp hmem
    obtain ⟨hcurrent, htype, -⟩ := consistent.findAmong?_iff_current.mp found
    exact Or.inl ⟨hcurrent, htype⟩
  | scanned _ _ h =>
    obtain ⟨filter, -, hscanned⟩ := scanned_of_scan h
    refine Or.inl ?_
    rw [← mem_candidates_iff consistent]
    cases hscanned with
    | byId asked =>
      obtain ⟨hcurrent, htype, -⟩ := (mem_answerById_iff consistent).mp hmem
      exact (mem_candidates_iff consistent).mpr ⟨hcurrent, htype⟩
    | first => exact (mem_of_scanFirst (Option.mem_toList.mp hmem)).1
    | none => simp [Outcome.nodes] at hmem
    | many => exact (List.mem_filter.mp (mem_sorted.mp hmem)).1

end Query

namespace Context

variable [PatternEngine] {context : Context}

/-- A query stops for the reason for which planning or executing the plan does. -/
theorem planAndExecute_outcome (context : Context) (query : Query) :
    (context.planAndExecute query).outcome =
      match (query.plan context.store context.cache context.counters).outcome with
      | .error e => .error (.fault (.query e))
      | .ok chosen =>
          (query.execute context.store chosen).mapError (Stop.map ContextError.filter) := by
  simp only [planAndExecute]
  cases (query.plan context.store context.cache context.counters).outcome with
  | error e => rfl
  | ok chosen => rfl

/-- A query that does not fail is answered in one of the ways. -/
theorem answered_of_planAndExecute {answer : Answer}
    (h : (context.planAndExecute query).outcome = .ok answer) :
    query.Answered context.store context.cache answer := by
  have planning := query.planning_plan context.store context.cache context.counters
  rw [planAndExecute_outcome] at h
  split at h
  · contradiction
  · rename_i chosen hplan
    rw [hplan] at planning
    cases hanswer : query.execute context.store chosen with
    | error e =>
      rw [hanswer] at h
      have hfailed : Except.error (Stop.map ContextError.filter e) = Except.ok answer := h
      contradiction
    | ok other =>
      rw [hanswer] at h
      obtain rfl := Except.ok.inj h
      exact Query.answered_of_plan planning hanswer

/-- A query for which an index has some nodes is answered by them. -/
theorem planAndExecute_of_found (use : query.IndexUse context.store context.cache)
    {node : StampedNode} {nodes : List StampedNode} (found : use.found? = some (node :: nodes)) :
    (context.planAndExecute query).outcome = .ok
      { outcome := .found (
          if query.firstOnly then (Query.firstScanned query.types (node :: nodes)).toList
          else node :: nodes)
        scan := .indexed
        scanned := (node :: nodes).length } := by
  have planning := query.planning_plan context.store context.cache context.counters
  rw [planAndExecute_outcome]
  generalize (query.plan context.store context.cache context.counters).outcome = planned
    at planning ⊢
  cases planning with
  | refused asked invalid => exact absurd invalid (use.ofField_ne_error asked _)
  | indexed other found' =>
    obtain rfl := other.unique use
    obtain ⟨rfl, rfl⟩ := List.cons.inj (Option.some.inj (found'.symm.trans found))
    simp only [Query.execute, and_true]
    rfl
  | byId unindexed | full unindexed => exact absurd found (unindexed.unfound use node nodes)

/-- Running a query counts and notes what planning and executing it gives. -/
theorem runQuery_eq (context : Context) (query : Query) :
    (context.runQuery query).outcome = (context.planAndExecute query).outcome ∧
      (context.runQuery query).context.store = context.store ∧
      (context.runQuery query).context.cache =
        (query.plan context.store context.cache context.counters).cache := by
  have hafter : (context.planAndExecute query).context.store = context.store ∧
      (context.planAndExecute query).context.cache =
        (query.plan context.store context.cache context.counters).cache := by
    unfold planAndExecute
    simp only
    split <;> exact ⟨rfl, rfl⟩
  unfold runQuery
  simp only
  split <;> rename_i houtcome <;> exact ⟨houtcome.symm, hafter⟩

end Context

end TypedStore
