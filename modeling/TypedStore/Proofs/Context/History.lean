import Mathlib.Data.List.Induction
import TypedStore.Proofs.Query.Answer

/-!
# Histories of a context

A history is what is asked of a context one step after another: changes of its store,
queries, and work on its cache of indexes. For each step this file says what it can do
to the store and to the cache; from this it follows where the indexes of a cache come
from.
-/

namespace TypedStore

/-- What is asked of a context, of its store or of its cache. An index over a contributed field
is asked for by its path. -/
inductive Step where
  | write (change : Change)
  | refresh (passes : List Pass)
  | query (query : Query)
  | ensure (text : String) (types : List String)
  | lookup (text : String) (value : Json) (types : List String)
  | clear

/-- What a step answers. -/
inductive Reply where
  | added (outcome : Except ContextError Unit)
  | deleted (node : Option Node)
  | refreshed (called : List Node) (outcome : Except ContextError Unit)
  | answered (outcome : Except (Stop ContextError) Answer)
  | ensured (outcome : Except IndexError Bool)
  | found (nodes : Option (List StampedNode))
  | cleared

/-- The stamped nodes that a reply shows. -/
def Reply.nodes : Reply → List StampedNode
  | answered (.ok answer) => answer.outcome.nodes
  | found (some nodes) => nodes
  | _ => []

/-- The index for some types and a path is asked for by a step. -/
inductive Step.Asks : Step → List String → FieldPath → Prop
  | query {query : Query} {field : String} {value : Json} {path : FieldPath}
      (asked : query.fieldShortcut? = some (field, value))
      (valid : FieldPath.ofField field = .ok path) : Asks (.query query) query.types path
  | ensure {text : String} {path : FieldPath} (parsed : FieldPath.parse text = .ok path)
      (types : List String) : Asks (.ensure text types) types path

namespace Context

/-- What the store of a context answers to a change. -/
def replyTo (context : Context) : Change → Reply
  | .add node _ => .added ((context.addNode node).map fun _ => ())
  | .delete id => .deleted (context.store.delete id).1
  | .refresh scheduling passes =>
      let refreshed := context.store.refresh scheduling passes
      .refreshed refreshed.called (refreshed.outcome.mapError ContextError.store)

/-- A step asks for an index that the cache does not have in use. -/
structure Builds (context : Context) (step : Step) (types : List String) (path : FieldPath) :
    Prop where
  asks : step.Asks types path
  unprovided : ∀ index, context.cache.indexes.get? (IndexName.of types path) = some index →
    context.cache.isFresh index context.store = false

variable {context : Context} {step : Step}

/-- What a step asks the cache for is kept there or built. -/
theorem ensure_cases_of_asks {types : List String} {path : FieldPath} {text : String}
    {ensured : IndexCache.Ensured} (asks : step.Asks types path)
    (parsed : FieldPath.parse text = .ok path)
    (provided : context.cache.ensure context.store text types = .ok ensured) :
    ensured.cache = context.cache ∨
      context.Builds step types path ∧ ∃ before, ensured.cache =
        (context.cache.build context.store (IndexName.of types path) path.segments types
          before).cache := by
  rcases context.cache.ensure_cases context.store types parsed with
    ⟨_, _, _, h⟩ | ⟨unprovided, before, h⟩
  · exact Or.inl (Except.ok.inj (provided.symm.trans h) ▸ rfl)
  · exact Or.inr ⟨⟨asks, unprovided⟩, before, Except.ok.inj (provided.symm.trans h) ▸ rfl⟩

variable [PatternEngine]

/-- Do what is asked of a context. -/
def perform (context : Context) : Step → Effect Reply
  | .write change =>
      ⟨{ context with store := context.store.change change }, [], context.replyTo change⟩
  | .refresh passes =>
      let effect := context.refresh passes
      ⟨effect.context, effect.journal, .refreshed effect.outcome.1 effect.outcome.2⟩
  | .query query =>
      let effect := context.runQuery query
      ⟨effect.context, effect.journal, .answered effect.outcome⟩
  | .ensure text types =>
      match context.cache.ensure context.store text types with
      | .error e => ⟨context, [], .ensured (.error e)⟩
      | .ok ensured =>
          ⟨{ context with cache := ensured.cache }, ensured.journal, .ensured (.ok ensured.built)⟩
  | .lookup text value types =>
      ⟨context, [], .found (context.cache.lookup? context.store text value types)⟩
  | .clear => ⟨{ context with cache := context.cache.clear }, [], .cleared⟩

/-- The context after a history. -/
def run (context : Context) (history : List Step) : Context :=
  history.foldl (fun context step => (context.perform step).context) context

/-- The context after a history, with the entries and the replies of all steps. -/
def performAll (context : Context) : List Step → Effect (List Reply)
  | [] => ⟨context, [], []⟩
  | step :: rest =>
      let effect := context.perform step
      let later := effect.context.performAll rest
      ⟨later.context, effect.journal ++ later.journal, effect.outcome :: later.outcome⟩

/-- A step of a history built an index for some types and a path, from the store as it was
before the step. -/
def BuiltIn (context : Context) (history : List Step) (types : List String) (path : FieldPath)
    (index : FieldIndex) : Prop :=
  ∃ before step after, history = before ++ step :: after ∧
    (context.run before).Builds step types path ∧
      index = FieldIndex.build (context.run before).store path.segments types

@[simp] theorem run_nil (context : Context) : context.run [] = context := rfl

@[simp] theorem run_append (context : Context) (before after : List Step) :
    context.run (before ++ after) = (context.run before).run after :=
  List.foldl_append

@[simp] theorem run_cons (context : Context) (step : Step) (history : List Step) :
    context.run (step :: history) = (context.perform step).context.run history := rfl

@[simp] theorem performAll_context (context : Context) (history : List Step) :
    (context.performAll history).context = context.run history := by
  induction history generalizing context with
  | nil => rfl
  | cons step rest ih => exact ih (context.perform step).context

/-- A step keeps the store or makes one change to it. -/
theorem perform_store (context : Context) (step : Step) :
    (context.perform step).context.store = context.store ∨
      ∃ change, (context.perform step).context.store = context.store.change change := by
  cases step with
  | write change => exact Or.inr ⟨change, rfl⟩
  | refresh passes =>
    refine Or.inr ⟨.refresh context.settings.scheduling passes, ?_⟩
    simp only [perform, refresh]
    split <;> rfl
  | query query => exact Or.inl (context.runQuery_eq query).2.1
  | ensure text types =>
    left
    simp only [perform]
    split <;> rfl
  | lookup | clear => exact Or.inl rfl

/-- A step keeps the cache, clears it or builds one index in it. -/
theorem perform_cache (context : Context) (step : Step) :
    (context.perform step).context.cache = context.cache ∨
      (context.perform step).context.cache = context.cache.clear ∨
        ∃ types path, context.Builds step types path ∧ ∃ before,
          (context.perform step).context.cache =
            (context.cache.build context.store (IndexName.of types path) path.segments types
              before).cache := by
  cases step with
  | write | lookup => exact Or.inl rfl
  | refresh passes =>
    left
    simp only [perform, refresh]
    split <;> rfl
  | query query =>
    have hcache : (context.perform (.query query)).context.cache =
        (query.plan context.store context.cache context.counters).cache :=
      (context.runQuery_eq query).2.2
    rw [hcache]
    rcases query.plan_cache context.store context.cache context.counters with
      ⟨use, h⟩ | ⟨-, h⟩
    · rw [h]
      have hparse := FieldPath.parse_text_of_parse use.valid
      rcases ensure_cases_of_asks (.query use.asked use.valid) hparse use.provided with
        hkept | hbuilt
      · exact Or.inl hkept
      · exact Or.inr (Or.inr ⟨_, _, hbuilt⟩)
    · exact Or.inl h
  | ensure text types =>
    simp only [perform]
    cases hensure : context.cache.ensure context.store text types with
    | error e => exact Or.inl rfl
    | ok ensured =>
      obtain ⟨path, hparse⟩ := IndexCache.parse_of_ensure hensure
      rcases ensure_cases_of_asks (.ensure hparse types) hparse hensure with hkept | hbuilt
      · exact Or.inl hkept
      · exact Or.inr (Or.inr ⟨_, _, hbuilt⟩)
  | clear => exact Or.inr (Or.inl rfl)

/-- The policy for indexes never changes. -/
theorem run_policy (context : Context) (history : List Step) :
    (context.run history).cache.policy = context.cache.policy := by
  induction history generalizing context with
  | nil => rfl
  | cons step rest ih =>
    rw [run_cons, ih]
    rcases context.perform_cache step with h | h | ⟨_, _, _, _, h⟩ <;> rw [h] <;> rfl

/-- A step keeps the policy. -/
theorem perform_policy (context : Context) (step : Step) :
    (context.perform step).context.cache.policy = context.cache.policy :=
  context.run_policy [step]

/-- Every store in a history of a context has a history itself. -/
theorem reachable_run (reachable : context.store.Reachable) (history : List Step) :
    (context.run history).store.Reachable := by
  induction history generalizing context with
  | nil => exact reachable
  | cons step rest ih =>
    refine ih ?_
    rcases context.perform_store step with h | ⟨change, h⟩
    · rwa [h]
    · rw [h]
      exact reachable.change change

/-- A history keeps the store or raises its generation. -/
theorem run_store_eq_or_generation_lt (context : Context) (history : List Step) :
    (context.run history).store = context.store ∨
      context.store.generation < (context.run history).store.generation := by
  induction history generalizing context with
  | nil => exact Or.inl rfl
  | cons step rest ih =>
    have hstep : (context.perform step).context.store = context.store ∨
        context.store.generation < (context.perform step).context.store.generation := by
      rcases context.perform_store step with h | ⟨change, h⟩
      · exact Or.inl h
      · rw [h]
        exact context.store.change_eq_or_generation_lt change
    rw [run_cons]
    rcases ih (context.perform step).context with hrest | hrest
    · rwa [hrest]
    · rcases hstep with hstep | hstep
      · exact Or.inr (hstep ▸ hrest)
      · exact Or.inr (Nat.lt_trans hstep hrest)

/-- The generation of the store never falls. -/
theorem generation_le_perform (context : Context) (step : Step) :
    context.store.generation ≤ (context.perform step).context.store.generation := by
  rcases context.run_store_eq_or_generation_lt [step] with h | h
  · exact Nat.le_of_eq (congrArg Store.generation h.symm)
  · exact Nat.le_of_lt h

/-- What a query finds in an index is found by a lookup in the cache that the query leaves,
for the store that it keeps. -/
theorem lookup?_run_query {query : Query} {history : List Step}
    (use : query.IndexUse (context.run history).store (context.run history).cache) :
    (context.run (history ++ [.query query])).store = (context.run history).store ∧
      (context.run (history ++ [.query query])).cache.lookup?
        (context.run (history ++ [.query query])).store use.path.text use.value query.types =
          use.found? := by
  obtain ⟨-, hstore, hcache⟩ := (context.run history).runQuery_eq query
  have hrun : context.run (history ++ [.query query]) =
      ((context.run history).runQuery query).context := by
    rw [run_append]
    rfl
  rw [hrun, hstore, hcache, use.plan_cache_eq]
  exact ⟨rfl, rfl⟩

/-- What was built in a history was built in every longer one. -/
theorem BuiltIn.append {history : List Step} {types : List String} {path : FieldPath}
    {index : FieldIndex} (h : context.BuiltIn history types path index) (more : List Step) :
    context.BuiltIn (history ++ more) types path index := by
  obtain ⟨before, step, after, rfl, hbuilds, hindex⟩ := h
  exact ⟨before, step, after ++ more, by simp, hbuilds, hindex⟩

/-- Every index of the cache was built by a step of the history, for types and a path that
have its name. -/
theorem builtIn_of_cached (hempty : context.cache.indexes = []) (history : List Step)
    {name : IndexName} {index : FieldIndex}
    (h : (context.run history).cache.indexes.get? name = some index) :
    ∃ types path, IndexName.of types path = name ∧ context.BuiltIn history types path index := by
  -- What the cache holds is decided by the last step, so the history is taken from its end.
  induction history using List.reverseRecOn with
  | nil => simp [hempty, Table.get?] at h
  | append_singleton history step ih =>
    have hbefore (h : (context.run history).cache.indexes.get? name = some index) :
        ∃ types path, IndexName.of types path = name ∧
          context.BuiltIn (history ++ [step]) types path index := by
      obtain ⟨types, path, hname, hbuilt⟩ := ih h
      exact ⟨types, path, hname, hbuilt.append _⟩
    rw [run_append, run_cons, run_nil] at h
    rcases (context.run history).perform_cache step with
      hkept | hcleared | ⟨types, path, hbuilds, before, hbuilt⟩
    · exact hbefore (hkept ▸ h)
    · simp [hcleared, IndexCache.clear, Table.get?] at h
    · rw [hbuilt, IndexCache.build, Table.get?_set] at h
      split at h
      · rename_i hname
        obtain rfl := Option.some.inj h
        exact ⟨types, path, hname, history, step, [], rfl, hbuilds, rfl⟩
      · exact hbefore h

/-- What a query finds in an index is a bucket of an index that was built in the history which
the query ends, for types and a path that have the name of the index of the query. -/
theorem builtIn_of_found (hempty : context.cache.indexes = []) {query : Query}
    {history : List Step}
    (use : query.IndexUse (context.run history).store (context.run history).cache)
    {found : List StampedNode} (hfound : use.found? = some found) :
    ∃ types other index key, IndexName.of types other = IndexName.of query.types use.path ∧
      context.BuiltIn (history ++ [.query query]) types other index ∧
        index.bucket? key = some found := by
  obtain ⟨path, index, key, hparse, hindex, -, -, hbucket⟩ := IndexCache.bucket?_of_lookup?
    (FieldPath.text_ne_id_of_ofField use.valid) ((lookup?_run_query use).2.trans hfound)
  obtain rfl : use.path = path :=
    Except.ok.inj ((FieldPath.parse_text_of_parse use.valid).symm.trans hparse)
  obtain ⟨types, other, hname, hbuilt⟩ := builtIn_of_cached hempty _ hindex
  exact ⟨types, other, index, key, hname, hbuilt, hbucket⟩

end Context

end TypedStore
