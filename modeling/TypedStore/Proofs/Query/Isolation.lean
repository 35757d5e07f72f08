import TypedStore.Pattern.Dialect
import TypedStore.Proofs.Filter.Spelling
import TypedStore.Proofs.Query.Answer
import TypedStore.Proofs.Store.Views

/-!
# Queries that do not address overlays

A stripped store has the nodes of a store and no overlays. A query whose filter and sort
name no path that is redirected or starts with the segment of overlays sees no more of a
store than that: to answer it and strip the answer is to answer it from the stripped store.
Each function that takes part in answering is shown to commute with stripping in this sense,
from the values at paths up to the run of a query.
-/

namespace TypedStore

/-- The node without the value that was resolved for it. -/
def StampedNode.stripped (stamped : StampedNode) : StampedNode := ⟨stamped.node, none⟩

/-- The nodes without overlays, as they are before anything has changed. -/
def Store.stripped (store : Store) : Store :=
  { store with overlays := Overlays.empty, generation := 0 }

/-- What was found, without overlays. -/
def Outcome.stripped : Outcome → Outcome
  | notFound => notFound
  | found nodes => found (nodes.map StampedNode.stripped)

/-- The answer without overlays. -/
def Answer.stripped (answer : Answer) : Answer :=
  { answer with outcome := answer.outcome.stripped }

/-- The plan without overlays. -/
def Plan.stripped (plan : Plan) : Plan :=
  { plan with candidates := plan.candidates.map StampedNode.stripped }

/-- A path is read from the nodes themselves: it is not redirected, and it does not start with
the segment of overlays. -/
structure Redirects.Spares (redirects : Redirects) (path : Path) : Prop where
  uncovered : redirects.covers (Path.join path) = false
  head?_ne : path.head? ≠ some overlaySegment

/-- A query does not address overlays: the paths of its filter, outside of the filters for
elements, and those of the fields of its sort are read from the nodes themselves. -/
structure Query.Unaddressed (query : Query) : Prop where
  filter : ∀ leaf ∈ Filter.leaves query.filter, query.redirects.Spares leaf.path
  sort : ∀ spec, query.sort = some spec → ∀ key ∈ spec.keys,
    query.redirects.Spares (Path.split key.field)

variable {query : Query} {cache : IndexCache} {redirects : Redirects} {path : Path}

namespace StampedNode

/-- A path that does not start with the segment of overlays leads into the node. -/
theorem at?_stripped (h : path.head? ≠ some overlaySegment) (stamped : StampedNode) :
    stamped.stripped.at? path = stamped.at? path := by
  cases path with
  | nil => rfl
  | cons name rest =>
    have hname : name ≠ overlaySegment := by simpa using h
    simp only [at?, if_neg hname, stripped]

/-- The value of a leaf at a path that is read from the nodes is that of the node. -/
theorem valueAt_stripped (h : redirects.Spares path) (stamped : StampedNode) :
    stamped.stripped.valueAt redirects path = stamped.valueAt redirects path := by
  simp [valueAt, h.uncovered, h.head?_ne, stripped]

end StampedNode

/-- A filter that does not address overlays lets a node pass or not, whatever its overlay is. -/
theorem Filter.matchesNode_stripped [PatternEngine] {compiled : Filter}
    (unaddressed : query.Unaddressed) (h : compile query.redirects query.filter = .ok compiled)
    (stamped : StampedNode) :
    compiled.matchesNode stamped.stripped = compiled.matchesNode stamped := by
  rw [Bool.eq_iff_iff, matchesNode_iff h, matchesNode_iff h]
  refine forall₂_congr fun leaf hmem => ?_
  exact Leaf.holds_congr (StampedNode.valueAt_stripped (unaddressed.filter leaf hmem) stamped)

namespace Store

theorem stamp_stripped (store : Store) (node : Node) :
    store.stripped.stamp node = (store.stamp node).stripped := rfl

theorem stampedOfType_stripped (store : Store) (type : String) :
    store.stripped.stampedOfType type = (store.stampedOfType type).map StampedNode.stripped := by
  rw [stampedOfType, stampedOfType, List.map_map]
  rfl

theorem findAmong?_stripped (store : Store) (id : String) (types : List String) :
    store.stripped.findAmong? id types =
      (store.findAmong? id types).map StampedNode.stripped := by
  have hget : store.stripped.get? id = store.get? id := rfl
  unfold findAmong?
  rw [hget]
  cases store.get? id with
  | none => rfl
  | some node => by_cases htype : types.contains node.type = true <;> simp only [htype] <;> rfl

/-- Stores with the same nodes are the same without overlays. -/
theorem Consistent.stripped_eq {a b : Store} (ha : a.Consistent) (hb : b.Consistent)
    (same : ∀ id, a.get? id = b.get? id) : a.stripped = b.stripped := by
  have hbyId : a.byId = b.byId := Dict.ext_get? same
  simp only [stripped, hbyId, ha.byType_eq hb same]

end Store

/-- The bucket of a key in an index that is built anew has the same nodes without overlays. -/
theorem FieldIndex.bucket?_build_stripped (store : Store) (path : Path) (types : List String)
    (key : IndexKey) :
    (build store.stripped path types).bucket? key =
      ((build store path types).bucket? key).map (List.map StampedNode.stripped) := by
  have hbearers : bearers store.stripped path types key = bearers store path types key := rfl
  rw [bucket?_build, bucket?_build, hbearers]
  cases bearers store path types key with
  | nil => rfl
  | cons node nodes => simp [Store.stamp_stripped]

/-- Without cached indexes, an index that is asked for is built from the store, and away from
the path of ids a lookup reads it. -/
theorem IndexCache.lookup?_ensure_of_empty (hempty : cache.indexes = []) (store : Store)
    (types : List String) {text : String} {path : FieldPath} (hid : text ≠ "id")
    (parsed : FieldPath.parse text = .ok path) :
    ∃ ensured, cache.ensure store text types = .ok ensured ∧ ∀ value,
      ensured.cache.lookup? store text value types =
        (IndexKey.ofJson? value).bind (FieldIndex.build store path.segments types).bucket? := by
  rcases cache.ensure_cases store types parsed with ⟨index, hindex, -⟩ | ⟨-, before, hensure⟩
  · simp [hempty, Table.get?] at hindex
  · refine ⟨_, hensure, fun value => ?_⟩
    rw [lookup?_of_ne_id _ _ _ _ hid parsed]
    simp [build, isFresh_build]

namespace SortSpec

variable {spec : SortSpec}

/-- A sort that does not address overlays reads the values of the node. -/
theorem values_stripped (h : ∀ key ∈ spec.keys, redirects.Spares (Path.split key.field))
    (stamped : StampedNode) :
    spec.values redirects stamped.stripped = spec.values redirects stamped := by
  refine List.map_congr_left fun key hkey => ?_
  have huncovered : redirects.covers key.field = false := by
    simpa only [Path.join_split] using (h key hkey).uncovered
  simp only [Redirects.target, huncovered, Bool.false_eq_true, if_false,
    StampedNode.at?_stripped (h key hkey).head?_ne]

/-- Nodes are put in the same order, whatever their overlays are. -/
theorem sort_stripped (h : ∀ key ∈ spec.keys, redirects.Spares (Path.split key.field))
    (nodes : List StampedNode) :
    spec.sort redirects (nodes.map StampedNode.stripped) =
      (spec.sort redirects nodes).map StampedNode.stripped := by
  rw [sort_eq_mergeSort, sort_eq_mergeSort]
  refine (List.map_mergeSort fun a _ b _ => ?_).symm
  simp only [le, compare, values_stripped h]

end SortSpec

namespace Query

theorem candidates_stripped (query : Query) (store : Store) :
    query.candidates store.stripped = (query.candidates store).map StampedNode.stripped := by
  rw [candidates, candidates, List.map_flatMap, funext store.stampedOfType_stripped]

/-- The order of a scan goes by types and ids. -/
theorem firstScanned_stripped (types : List String) (nodes : List StampedNode) :
    firstScanned types (nodes.map StampedNode.stripped) =
      (firstScanned types nodes).map StampedNode.stripped := by
  cases nodes with
  | nil => rfl
  | cons node rest =>
    simp only [firstScanned, List.map_cons, List.foldl_map, Option.map_some]
    congr 1
    refine List.foldl_hom StampedNode.stripped fun best next => ?_
    have hbefore : scannedBefore types next.stripped best.stripped =
        scannedBefore types next best := rfl
    rw [hbefore]
    split <;> rfl

theorem scanFirst_stripped {filter : Filter}
    (hmatches : ∀ stamped : StampedNode,
      filter.matchesNode stamped.stripped = filter.matchesNode stamped)
    (nodes : List StampedNode) :
    scanFirst filter (nodes.map StampedNode.stripped) =
      ((scanFirst filter nodes).1.map StampedNode.stripped, (scanFirst filter nodes).2) := by
  induction nodes with
  | nil => rfl
  | cons node rest ih =>
    rw [List.map_cons, scanFirst, scanFirst, hmatches, ih]
    split <;> rfl

theorem sorted_stripped (unaddressed : query.Unaddressed) (nodes : List StampedNode) :
    query.sorted (nodes.map StampedNode.stripped) =
      (query.sorted nodes).map StampedNode.stripped := by
  unfold sorted
  cases hsort : query.sort with
  | none => rfl
  | some spec => exact SortSpec.sort_stripped (unaddressed.sort spec hsort) nodes

theorem answerById_stripped (query : Query) (store : Store) (id : String) :
    query.answerById store.stripped id = (query.answerById store id).stripped := by
  unfold answerById
  rw [Store.findAmong?_stripped]
  cases store.findAmong? id query.types with
  | none => cases query.firstOnly <;> rfl
  | some stamped => rfl

/-- A scan finds the same nodes among candidates without overlays. -/
theorem scan_stripped [PatternEngine] (unaddressed : query.Unaddressed) (store : Store)
    (candidates : List StampedNode) :
    query.scan store.stripped (candidates.map StampedNode.stripped) =
      (query.scan store candidates).map fun result => (result.1.stripped, result.2) := by
  unfold scan
  cases hcompile : Filter.compile query.redirects query.filter with
  | error fault => rfl
  | ok filter =>
    have hmatches := Filter.matchesNode_stripped unaddressed hcompile
    have hfilter : (candidates.map StampedNode.stripped).filter filter.matchesNode =
        (candidates.filter filter.matchesNode).map StampedNode.stripped := by
      rw [List.filter_map]
      exact congrArg _ (List.filter_congr fun stamped _ => hmatches stamped)
    simp only [scanFirst_stripped hmatches, hfilter, answerById_stripped, List.length_map]
    cases idEquality? query.filter with
    | some id => rfl
    | none =>
      cases query.firstOnly with
      | true => cases (scanFirst filter candidates).1 <;> rfl
      | false =>
        cases hfound : candidates.filter filter.matchesNode with
        | nil => rfl
        | cons node nodes =>
          simp [Except.map, Outcome.stripped, ← sorted_stripped unaddressed]

/-- A plan without overlays is answered by the same nodes. -/
theorem execute_stripped [PatternEngine] (unaddressed : query.Unaddressed) (store : Store)
    (plan : Plan) :
    query.execute store.stripped plan.stripped =
      (query.execute store plan).map Answer.stripped := by
  obtain ⟨scan, candidates, index⟩ := plan
  cases scan with
  | full =>
    simp only [execute, Plan.stripped, scan_stripped unaddressed]
    cases query.scan store candidates <;> rfl
  | byId => simp [execute, Plan.stripped, Except.map, Answer.stripped, Outcome.stripped]
  | indexed =>
    simp only [execute, Plan.stripped, firstScanned_stripped, List.length_map]
    cases query.firstOnly with
    | true => cases firstScanned query.types candidates <;> rfl
    | false => rfl

/-- Without cached indexes, planning with an index finds the same nodes without overlays. -/
theorem planIndexed_stripped {other : IndexCache} (hempty : cache.indexes = [])
    (hother : other.indexes = []) (query : Query) (store : Store) (counters others : Counters) :
    (query.planIndexed store.stripped other others).outcome =
      (query.planIndexed store cache counters).outcome.map (Option.map Plan.stripped) := by
  unfold planIndexed
  cases query.fieldShortcut? with
  | none => rfl
  | some shortcut =>
    obtain ⟨field, value⟩ := shortcut
    cases hpath : FieldPath.ofField field with
    | error e =>
      simp only [hpath]
      rfl
    | ok path =>
      have hid := FieldPath.text_ne_id_of_ofField hpath
      have hparse := FieldPath.parse_text_of_parse hpath
      obtain ⟨ensured, hensure, hlookup⟩ :=
        cache.lookup?_ensure_of_empty hempty store query.types hid hparse
      obtain ⟨stripped, hstripped, hbare⟩ :=
        other.lookup?_ensure_of_empty hother store.stripped query.types hid hparse
      -- Both indexes were built just now, each from its own store.
      have hbucket : (IndexKey.ofJson? value).bind
            (FieldIndex.build store.stripped path.segments query.types).bucket? =
          ((IndexKey.ofJson? value).bind
            (FieldIndex.build store path.segments query.types).bucket?).map
              (List.map StampedNode.stripped) := by
        cases IndexKey.ofJson? value with
        | none => rfl
        | some key => exact FieldIndex.bucket?_build_stripped store path.segments query.types key
      simp only [hpath, hensure, hlookup, hstripped, hbare, hbucket]
      cases (IndexKey.ofJson? value).bind
          (FieldIndex.build store path.segments query.types).bucket? with
      | none => rfl
      | some found => cases found <;> rfl

/-- Past the indexes, the same nodes are left to look up or to scan. -/
theorem planUnindexed_stripped (query : Query) (store : Store) (counters others : Counters) :
    (query.planUnindexed store.stripped others).2 =
      (query.planUnindexed store counters).2.stripped := by
  have hbyId : query.planById store.stripped = (query.planById store).map Plan.stripped := by
    unfold planById
    cases idEquality? query.filter with
    | none => rfl
    | some id =>
      simp only [Store.findAmong?_stripped, Option.map_map]
      rfl
  unfold planUnindexed
  rw [hbyId]
  cases query.planById store with
  | none => simp [Plan.stripped, candidates_stripped]
  | some plan => rfl

/-- Without cached indexes, planning fails for the same reason, or gives the same plan without
overlays. -/
theorem plan_stripped {other : IndexCache} (hempty : cache.indexes = [])
    (hother : other.indexes = []) (query : Query) (store : Store) (counters others : Counters) :
    (query.plan store.stripped other others).outcome =
      (query.plan store cache counters).outcome.map Plan.stripped := by
  have hindexed := planIndexed_stripped hempty hother query store counters others
  unfold plan
  cases hplanned : (query.planIndexed store cache counters).outcome with
  | error e =>
    rw [hplanned] at hindexed
    simp only [hplanned, hindexed, Except.map]
  | ok found =>
    rw [hplanned] at hindexed
    simp only [hplanned, hindexed, Except.map]
    cases found with
    | some plan => rfl
    | none => exact congrArg Except.ok (planUnindexed_stripped query store _ _)

end Query

namespace Context

section Engine

variable [PatternEngine]

/-- Without cached indexes, a query that does not address overlays is answered from a store as
from the stripped one: to answer it and strip the answer is to answer it from what is stripped. -/
theorem runQuery_stripped {context : Context} (hempty : context.cache.indexes = [])
    (unaddressed : query.Unaddressed) (settings : Settings) :
    ((create context.store.stripped settings).runQuery query).outcome =
      (context.runQuery query).outcome.map Answer.stripped := by
  rw [(runQuery_eq _ query).1, (runQuery_eq context query).1, planAndExecute_outcome,
    planAndExecute_outcome]
  simp only [create]
  rw [Query.plan_stripped hempty rfl query context.store context.counters]
  cases (query.plan context.store context.cache context.counters).outcome with
  | error e => rfl
  | ok plan =>
    simp only [Except.map, Query.execute_stripped unaddressed]
    cases query.execute context.store plan <;> rfl

/-- Over two stores with the same nodes, whatever their overlays and generations are, a query
that does not address overlays fails in new contexts for the same reason, or is answered alike
but for the overlays of the nodes: the kind of outcome, the nodes and their order, the way to
answer and the count of what was looked at are the same. So a refresh before the query changes
none of this. -/
theorem runQuery_isolated {a b : Store} (ha : a.Consistent) (hb : b.Consistent)
    (same : ∀ id, a.get? id = b.get? id) (unaddressed : query.Unaddressed)
    (settings others : Settings) :
    ((create a settings).runQuery query).outcome.map Answer.stripped =
        ((create b others).runQuery query).outcome.map Answer.stripped ∧
      ∀ passes : List Pass,
        (((create a settings).refresh passes).context.runQuery query).outcome.map Answer.stripped =
          ((create a settings).runQuery query).outcome.map Answer.stripped := by
  have hrun (context : Context) (hempty : context.cache.indexes = [])
      (hstripped : context.store.stripped = a.stripped) :
      (context.runQuery query).outcome.map Answer.stripped =
        ((create a.stripped settings).runQuery query).outcome := by
    rw [← hstripped, runQuery_stripped hempty unaddressed settings]
  refine ⟨?_, fun passes => ?_⟩
  · rw [hrun (create a settings) rfl rfl, hrun (create b others) rfl (ha.stripped_eq hb same).symm]
  · -- A refresh keeps the nodes, and the context has still no index.
    obtain ⟨hstore, hcache⟩ :
        ((create a settings).refresh passes).context.store =
            a.change (.refresh settings.scheduling passes) ∧
          ((create a settings).refresh passes).context.cache =
            (create a settings).cache := by
      simp only [refresh]
      split <;> exact ⟨rfl, rfl⟩
    have hnodes := (a.refresh_nodes settings.scheduling passes).1
    have hstripped : ((create a settings).refresh passes).context.store.stripped =
        a.stripped := by
      rw [hstore]
      exact (ha.change _).stripped_eq ha fun id => congrArg (Dict.get? · id) hnodes
    rw [hrun _ (hcache ▸ rfl) hstripped, hrun (create a settings) rfl rfl]

end Engine

/-- A store with two nodes. -/
def postsStore : Store :=
  (Store.empty.put (Node.bare "a" "Post" "d")).put (Node.bare "b" "Post" "d")

/-- The same nodes, one of them with an overlay. -/
def overlaidStore : Store :=
  postsStore.withOverlays "Post" (Dict.ofList [("a", .object [("x", .string "1")])])

/-- A query for all nodes of a type, the greatest id first, that declares a resolved path. -/
def postsQuery : Query where
  types := ["Post"]
  filter := .object [("internal", .object [("type", .object [("eq", .string "Post")])])]
  sort := some ⟨[⟨"id", .descending⟩]⟩
  firstOnly := false
  redirects := .ofPaths ["x"]

open scoped PatternEngine

/-- The overlay is not seen by the query. -/
theorem runQuery_isolated_postsQuery :
    postsStore.Consistent ∧ overlaidStore.Consistent ∧
      (∀ id, postsStore.get? id = overlaidStore.get? id) ∧ postsQuery.Unaddressed ∧
      postsStore.overlays.get? "Post" "a" = none ∧
      overlaidStore.overlays.get? "Post" "a" = some (.object [("x", .string "1")]) ∧
      ((create postsStore Settings.standard).runQuery postsQuery).outcome.map Answer.stripped =
        ((create overlaidStore Settings.standard).runQuery postsQuery).outcome.map
          Answer.stripped := by
  have hposts : postsStore.Consistent :=
    (Store.consistent_empty.put (Node.Made.bare ..) (by simp [Store.empty, Store.get?])).put
      (Node.Made.bare ..) fun existing hexisting => by
        simp [Store.empty, Store.get?, Store.put, Node.bare, Node.stamped] at hexisting
  have hoverlaid : overlaidStore.Consistent := hposts.withOverlays _ _
  have unaddressed : postsQuery.Unaddressed := by
    refine ⟨?_, ?_⟩
    · have hleaves : Filter.leaves postsQuery.filter =
          [.test ["internal", "type"] "eq" (.string "Post")] := rfl
      rw [hleaves, List.forall_mem_singleton]
      exact ⟨by decide, by decide⟩
    · rintro spec hspec key hkey
      obtain rfl := Option.some.inj hspec
      obtain rfl := List.mem_singleton.mp hkey
      exact ⟨by decide, by decide⟩
  exact ⟨hposts, hoverlaid, fun _ => rfl, unaddressed, rfl, rfl,
    (runQuery_isolated hposts hoverlaid (fun _ => rfl) unaddressed _ _).1⟩

end Context

end TypedStore
