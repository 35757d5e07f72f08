import TypedStore.Proofs.Context.History

/-!
# No stale reads

Under the policy that follows the generation of the store, an index is used only if the
store has not changed since it was built, and then it is what building it again would
give. So every node that a history shows is the current one, with the current overlay.
-/

namespace TypedStore.Context

variable [PatternEngine] {context : Context} {history : List Step} {types : List String}
  {path : FieldPath} {index : FieldIndex} {stamped : StampedNode}

/-- An index with the generation of the store is what building it again gives. -/
theorem BuiltIn.eq_build (h : context.BuiltIn history types path index)
    (hgeneration : index.generation = (context.run history).store.generation) :
    index = FieldIndex.build (context.run history).store path.segments types := by
  obtain ⟨before, step, after, rfl, -, rfl⟩ := h
  rw [run_append] at hgeneration ⊢
  rcases (context.run before).run_store_eq_or_generation_lt (step :: after) with hstore | hlt
  · rw [hstore]
  · exact absurd hgeneration (Nat.ne_of_lt hlt)

/-- A node that a lookup in the cache finds is current. -/
theorem current_of_lookup? (reachable : context.store.Reachable)
    (hempty : context.cache.indexes = []) (hpolicy : context.cache.policy = .generation)
    {text : String} {value : Json} {found : List StampedNode}
    (h : (context.run history).cache.lookup? (context.run history).store text value types =
      some found)
    (hmem : stamped ∈ found) : (context.run history).store.Current stamped := by
  have consistent := (reachable_run reachable history).consistent
  by_cases hid : text = "id"
  · rw [IndexCache.lookup?, if_pos hid] at h
    obtain ⟨id, -, h⟩ := Option.bind_eq_some_iff.mp h
    obtain ⟨only, honly, rfl⟩ := Option.map_eq_some_iff.mp h
    obtain rfl := List.mem_singleton.mp hmem
    obtain ⟨node, hlive, -, rfl⟩ := Store.findAmong?_eq_some_iff.mp honly
    exact Store.current_stamp (consistent.id_eq _ _ hlive ▸ hlive)
  · obtain ⟨path, index, key, -, hindex, hfresh, -, hbucket⟩ :=
      IndexCache.bucket?_of_lookup? hid h
    obtain ⟨builtTypes, builtPath, -, hbuilt⟩ := builtIn_of_cached hempty history hindex
    have hgeneration : index.generation = (context.run history).store.generation := by
      rw [IndexCache.isFresh, run_policy, hpolicy] at hfresh
      exact of_decide_eq_true hfresh
    rw [hbuilt.eq_build hgeneration] at hbucket
    exact (FieldIndex.current_of_mem_bucket? consistent hbucket hmem).1

/-- A node that a query finds is current. -/
theorem current_of_query (reachable : context.store.Reachable)
    (hempty : context.cache.indexes = []) (hpolicy : context.cache.policy = .generation)
    {query : Query} {answer : Answer}
    (h : ((context.run history).runQuery query).outcome = .ok answer)
    (hmem : stamped ∈ answer.outcome.nodes) : (context.run history).store.Current stamped := by
  obtain ⟨houtcome, -, -⟩ := (context.run history).runQuery_eq query
  have consistent := (reachable_run reachable history).consistent
  rcases (answered_of_planAndExecute (houtcome ▸ h)).mem_cases consistent hmem with
    ⟨hcurrent, -⟩ | ⟨use, found, hfound, hmem⟩
  · exact hcurrent
  · -- The index that was read is in the cache that the query leaves, for the same store.
    obtain ⟨hstore, hlookup⟩ := lookup?_run_query use
    rw [← hstore]
    exact current_of_lookup? reachable hempty hpolicy (hlookup.trans hfound) hmem

/-- A node that any step shows is current. -/
theorem current_of_perform (reachable : context.store.Reachable)
    (hempty : context.cache.indexes = []) (hpolicy : context.cache.policy = .generation)
    {step : Step} (hmem : stamped ∈ ((context.run history).perform step).outcome.nodes) :
    (context.run history).store.Current stamped := by
  cases step with
  | query query =>
    simp only [perform] at hmem
    cases houtcome : ((context.run history).runQuery query).outcome with
    | error e => simp [houtcome, Reply.nodes] at hmem
    | ok answer =>
      rw [houtcome] at hmem
      exact current_of_query reachable hempty hpolicy houtcome hmem
  | lookup text value types =>
    simp only [perform] at hmem
    cases hlookup : (context.run history).cache.lookup? (context.run history).store text value
      types with
    | none => simp [hlookup, Reply.nodes] at hmem
    | some found =>
      rw [hlookup] at hmem
      exact current_of_lookup? reachable hempty hpolicy hlookup hmem
  | ensure text types =>
    simp only [perform] at hmem
    split at hmem <;> simp [Reply.nodes] at hmem
  | write change => cases change <;> simp [perform, replyTo, Reply.nodes] at hmem
  | refresh | clear => simp [perform, Reply.nodes] at hmem

/-- Asking for an index that has the generation of the store changes nothing. -/
theorem perform_ensure_of_generation_eq (hpolicy : context.cache.policy = .generation)
    {text : String} (parsed : FieldPath.parse text = .ok path)
    (hindex : context.cache.indexes.get? (IndexName.of types path) = some index)
    (hgeneration : index.generation = context.store.generation) :
    context.perform (.ensure text types) = ⟨context, [], .ensured (.ok false)⟩ := by
  have hfresh : context.cache.isFresh index context.store = true := by
    rw [IndexCache.isFresh, hpolicy]
    exact decide_eq_true hgeneration
  have hensure : context.cache.ensure context.store text types =
      .ok ⟨context.cache, false, []⟩ := by
    simp [IndexCache.ensure, parsed, hindex, hfresh]
  simp only [perform, hensure]

/-- Under the policy that follows the generation, after any history: every index of the cache
was built in the history for types and a path of its name, and if it has the generation of
the store, it is what building it again gives; asking for an index that cannot be had or
that has the generation of the store changes nothing; and whatever step comes next shows
current nodes only. -/
theorem run_generation (settings : Settings) (history : List Step) :
    let start := create Store.empty { settings with freshness := .generation }
    let context := start.run history
    (∀ name index, context.cache.indexes.get? name = some index →
      ∃ types path, IndexName.of types path = name ∧
        start.BuiltIn history types path index ∧
        (index.generation = context.store.generation →
          index = FieldIndex.build context.store path.segments types)) ∧
    (∀ text types,
      (∀ e, context.cache.ensure context.store text types = .error e →
        (context.perform (.ensure text types)).context = context) ∧
      ∀ path index, FieldPath.parse text = .ok path →
        context.cache.indexes.get? (IndexName.of types path) = some index →
        index.generation = context.store.generation →
        context.perform (.ensure text types) = ⟨context, [], .ensured (.ok false)⟩) ∧
    ∀ step stamped, stamped ∈ (context.perform step).outcome.nodes →
      context.store.Current stamped := by
  intro start context
  have reachable : start.store.Reachable := Store.Reachable.empty
  have hempty : start.cache.indexes = [] := rfl
  have hpolicy : context.cache.policy = .generation := start.run_policy history
  refine ⟨?_, ?_, fun step stamped => current_of_perform reachable hempty rfl⟩
  · intro name index hindex
    obtain ⟨types, path, hname, hbuilt⟩ := builtIn_of_cached hempty history hindex
    exact ⟨types, path, hname, hbuilt, hbuilt.eq_build⟩
  · intro text types
    refine ⟨fun e herror => by simp [perform, herror], ?_⟩
    intro path index parsed hindex hgeneration
    exact perform_ensure_of_generation_eq hpolicy parsed hindex hgeneration

end TypedStore.Context
