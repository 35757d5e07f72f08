import TypedStore.Pattern.Dialect
import TypedStore.Proofs.Context.History
import TypedStore.Proofs.Query.Shortcut

/-!
# Queries find nodes of their own types

All queries of a context share its cache of indexes, and an index is found by its name.
So queries find nodes of their own types only exactly if the lists of types that are
asked for are told apart by the names of their indexes.
-/

namespace TypedStore

/-- What a step asks for is a field path. -/
theorem Step.Asks.parsed {step : Step} {types : List String} {path : FieldPath}
    (asks : step.Asks types path) : FieldPath.parse path.text = .ok path := by
  cases asks with
  | query _ valid => exact FieldPath.parse_text_of_parse valid
  | ensure parsed => exact FieldPath.parse_text_of_parse parsed

namespace Context

section Sharing

variable [PatternEngine]

/-- In every history that asks for indexes over allowed lists of types only, a query for an
allowed list finds nodes of the types in its list. -/
def Confined (settings : Settings) (allowed : List String → Prop) : Prop :=
  ∀ history, (∀ step ∈ history, ∀ types path, step.Asks types path → allowed types) →
    ∀ query answer, allowed query.types →
      (((create Store.empty settings).run history).runQuery query).outcome = .ok answer →
        ∀ stamped ∈ answer.outcome.nodes, stamped.type ∈ query.types

variable {context : Context} {history : List Step} {types : List String} {path : FieldPath}
  {index : FieldIndex} {stamped : StampedNode}

/-- The buckets of an index hold nodes of the types that it was built for. -/
theorem BuiltIn.type_mem (h : context.BuiltIn history types path index)
    (reachable : context.store.Reachable) {key : IndexKey} {found : List StampedNode}
    (hbucket : index.bucket? key = some found) (hmem : stamped ∈ found) :
    stamped.type ∈ types := by
  obtain ⟨before, step, after, -, -, rfl⟩ := h
  have consistent := (reachable_run reachable before).consistent
  exact (FieldIndex.current_of_mem_bucket? consistent hbucket hmem).2

/-- A node that a query finds has one of its types, or an index over other types has the
name of the index that the query uses and was built in the history that the query ends. -/
theorem type_mem_of_query (reachable : context.store.Reachable)
    (hempty : context.cache.indexes = []) {query : Query} {answer : Answer}
    (h : ((context.run history).runQuery query).outcome = .ok answer)
    (hmem : stamped ∈ answer.outcome.nodes) :
    stamped.type ∈ query.types ∨
      ∃ types path other index, (Step.query query).Asks query.types path ∧
        IndexName.of types other = IndexName.of query.types path ∧
        context.BuiltIn (history ++ [.query query]) types other index ∧ stamped.type ∈ types := by
  obtain ⟨houtcome, -, -⟩ := (context.run history).runQuery_eq query
  have consistent := (reachable_run reachable history).consistent
  rcases (answered_of_planAndExecute (houtcome ▸ h)).mem_cases consistent hmem with
    ⟨-, htype⟩ | ⟨use, found, hfound, hmem⟩
  · exact Or.inl htype
  · obtain ⟨types, other, index, key, hname, hbuilt, hbucket⟩ := builtIn_of_found hempty use hfound
    exact Or.inr ⟨types, use.path, other, index, .query use.asked use.valid, hname, hbuilt,
      hbuilt.type_mem reachable hbucket hmem⟩

/-- Lists of types that are told apart by the names of their indexes keep queries to their
own types. -/
theorem confined_of_separates (settings : Settings) {allowed : List String → Prop}
    (separates : IndexName.Separates allowed) : Confined settings allowed := by
  intro history hallowed query answer hquery hanswer stamped hmem
  have reachable : (create Store.empty settings).store.Reachable := Store.Reachable.empty
  rcases type_mem_of_query reachable rfl hanswer hmem with
    htype | ⟨types, path, other, index, hasks, hname, hbuilt, htype⟩
  · exact htype
  · obtain ⟨before, step, after, hsplit, hbuilds, -⟩ := hbuilt
    have htypes : allowed types := by
      have hstep : step ∈ history ++ [.query query] := by simp [hsplit]
      rcases List.mem_append.mp hstep with hstep | hstep
      · exact hallowed step hstep types other hbuilds.asks
      · obtain rfl := List.mem_singleton.mp hstep
        cases hbuilds.asks
        exact hquery
    have hsame := separates types query.types htypes hquery other path hbuilds.asks.parsed
      hasks.parsed hname
    exact (hsame.1 stamped.type).mp htype

/-- A node of a type with a contributed field. -/
def slugNode (type : String) : Node := (Node.bare "a" type "d").withField "slug" (.string "/a")

/-- The path of this field. -/
def slugPath : FieldPath := ⟨"fields/slug", ["fields", "slug"]⟩

/-- The query for all nodes of some types with this field. -/
def slugQuery (types : List String) : Query :=
  ⟨types, Query.fieldEquality "slug" (.string "/a"), none, false, Redirects.none⟩

/-- The history in which the node is added and nodes of some types are asked for. -/
def slugHistory (type : String) (types : List String) : List Step :=
  [.write (.add (slugNode type) ((Node.Made.bare ..).withField ..)), .query (slugQuery types)]

/-- The query uses the index that is kept under its name, whatever types it was built for. -/
theorem exists_found_of_cached (consistent : context.store.Consistent) {types others : List String}
    (hindex : context.cache.indexes.get? (IndexName.of others slugPath) =
      some (FieldIndex.build context.store slugPath.segments types))
    {node : Node}
    (hnode : context.store.Qualifies slugPath.segments types (.string "/a") node) :
    ∃ answer, (context.runQuery (slugQuery others)).outcome = .ok answer ∧
      context.store.stamp node ∈ answer.outcome.nodes := by
  have hparse : FieldPath.parse slugPath.text = .ok slugPath := rfl
  have hfresh := context.cache.isFresh_build context.store slugPath.segments types
  have hprovided : context.cache.ensure context.store slugPath.text others =
      .ok ⟨context.cache, false, []⟩ := by
    simp [IndexCache.ensure, hparse, hindex, hfresh]
  let use : (slugQuery others).IndexUse context.store context.cache :=
    ⟨"slug", .string "/a", slugPath, _, rfl, rfl, hprovided⟩
  have hfound : use.found? = (IndexKey.ofJson? (.string "/a")).bind
      (FieldIndex.build context.store slugPath.segments types).bucket? := by
    have hid : slugPath.text ≠ "id" := by decide
    refine (context.cache.lookup?_of_ne_id context.store (.string "/a") others hid hparse).trans ?_
    simp [hindex, hfresh]
  have hanswer := FieldIndex.answersEquality_build consistent slugPath.segments types
    (.string "/a")
  rw [← hfound] at hanswer
  cases hnodes : use.found? with
  | none =>
    rcases hanswer.eq_none_iff.mp hnodes with hscalar | hnone
    · contradiction
    · exact absurd hnode (hnone node)
  | some found =>
    have hmem := (hanswer.mem_iff found hnodes _).mpr ⟨node, hnode, rfl⟩
    cases found with
    | nil => contradiction
    | cons first rest =>
      refine ⟨_, ((context.runQuery_eq _).1.trans (planAndExecute_of_found use hnodes)), ?_⟩
      exact hmem

/-- After a query for some types, a query for types with the same name of the index finds
what the first one found. -/
theorem exists_found_of_name_eq (settings : Settings) {type : String} {types others : List String}
    (htype : type ∈ types)
    (hname : IndexName.of others slugPath = IndexName.of types slugPath) :
    ∃ answer, (((create Store.empty settings).run (slugHistory type types)).runQuery
        (slugQuery others)).outcome = .ok answer ∧
      ∃ stamped ∈ answer.outcome.nodes, stamped.type = type := by
  let context : Context :=
    { create Store.empty settings with store := Store.empty.put (slugNode type) }
  have hrun : (create Store.empty settings).run (slugHistory type types) =
      (context.runQuery (slugQuery types)).context := rfl
  have hparse : FieldPath.parse slugPath.text = .ok slugPath := rfl
  obtain ⟨ensured, before, hensured, hbuilt⟩ : ∃ ensured before,
      context.cache.ensure context.store slugPath.text types = .ok ensured ∧
        ensured = context.cache.build context.store (IndexName.of types slugPath)
          slugPath.segments types before := ⟨_, [], rfl, rfl⟩
  let use : (slugQuery types).IndexUse context.store context.cache :=
    ⟨"slug", .string "/a", slugPath, ensured, rfl, rfl, hensured⟩
  obtain ⟨-, hstore, hcache⟩ := context.runQuery_eq (slugQuery types)
  have hlive : context.store.get? (slugNode type).id = some (slugNode type) := by
    simp [context]
  have hindex : (context.runQuery (slugQuery types)).context.cache.indexes.get?
      (IndexName.of others slugPath) =
        some (FieldIndex.build context.store slugPath.segments types) := by
    rw [hcache, use.plan_cache_eq, hname]
    simp [use, hbuilt, IndexCache.build]
  rw [hrun]
  rw [← hstore] at hindex hlive
  have consistent : (context.runQuery (slugQuery types)).context.store.Consistent := by
    rw [hstore]
    exact Store.consistent_empty.put ((Node.Made.bare ..).withField ..)
      (by simp [Store.empty, Store.get?])
  obtain ⟨answer, hanswer, hmem⟩ :=
    exists_found_of_cached consistent hindex ⟨hlive, htype, rfl⟩
  exact ⟨answer, hanswer, _, hmem, rfl⟩

/-- Lists that share the name of an index have the same types if queries for them are kept to
their own types. -/
theorem subset_of_confined {settings : Settings} {allowed : List String → Prop}
    (confined : Confined settings allowed) {types others : List String} (htypes : allowed types)
    (hothers : allowed others)
    (hname : IndexName.of others slugPath = IndexName.of types slugPath) :
    ∀ type ∈ types, type ∈ others := by
  intro type htype
  obtain ⟨answer, hanswer, stamped, hmem, rfl⟩ := exists_found_of_name_eq settings htype hname
  refine confined _ ?_ (slugQuery others) answer hothers hanswer stamped hmem
  intro step hstep asked path hasks
  simp only [slugHistory, List.mem_cons, List.not_mem_nil, or_false] at hstep
  rcases hstep with rfl | rfl
  · cases hasks
  · cases hasks
    exact htypes

/-- Queries of a context find nodes of their own types only, in every history, exactly if the
lists of types that are asked for are told apart by the names of their indexes. Lists that
are not empty and whose types have no commas are. -/
theorem confined_iff (settings : Settings) (allowed : List String → Prop) :
    (Confined settings allowed ↔ IndexName.Separates allowed) ∧
      ((∀ types, allowed types → IndexName.Plain types) → Confined settings allowed) := by
  refine ⟨⟨?_, confined_of_separates settings⟩, ?_⟩
  · -- Two lists with one name are both spelled alike for the field that the example uses.
    intro confined as bs has hbs path other hpath hother hname
    have hslug : IndexName.of as slugPath = IndexName.of bs slugPath := by
      have htypes : (IndexName.of as path).types = (IndexName.of bs other).types := by rw [hname]
      exact congrArg (IndexName.mk · slugPath.text) htypes
    refine ⟨fun type => ⟨?_, ?_⟩, IndexName.path_eq_of_name_eq hpath hother hname⟩
    · exact subset_of_confined confined has hbs hslug.symm type
    · exact subset_of_confined confined hbs has hslug type
  · intro hplain
    apply confined_of_separates settings
    intro as bs has hbs
    exact IndexName.separates_plain as bs (hplain as has) (hplain bs hbs)

end Sharing

open scoped PatternEngine

/-- A query for one type whose name has a comma finds a node of another type, since an index
over two types has the same name. -/
theorem not_confined_of_comma :
    IndexName.of ["A", "B"] slugPath = IndexName.of ["A,B"] slugPath ∧
      ∃ answer, (((create Store.empty Settings.standard).run (slugHistory "A" ["A", "B"])).runQuery
          (slugQuery ["A,B"])).outcome = .ok answer ∧
        ∃ stamped ∈ answer.outcome.nodes, stamped.type = "A" ∧
          stamped.type ∉ (slugQuery ["A,B"]).types := by
  have hname : IndexName.of ["A", "B"] slugPath = IndexName.of ["A,B"] slugPath := by decide
  obtain ⟨answer, hanswer, stamped, hmem, htype⟩ :=
    exists_found_of_name_eq Settings.standard (List.mem_cons_self ..) hname.symm
  refine ⟨hname, answer, hanswer, stamped, hmem, htype, ?_⟩
  rw [htype]
  decide

end Context

end TypedStore
