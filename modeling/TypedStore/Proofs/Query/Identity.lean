import TypedStore.Pattern.Dialect
import TypedStore.Proofs.Query.Answer

/-!
# Equality of the id

A filter that asks for equality of the id with a text is answered by looking up the id: in
planning, or in the scan that planning leaves to do. The lookup goes by the ids of nodes,
the compiled filter by the values at the path of the id. Both agree unless this path is
redirected; that a plan holds the answer already or leaves a scan to do makes no difference.
-/

namespace TypedStore.Query

/-- The filter that asks for equality of the id with a text. -/
def idEquality (id : String) : Json :=
  .object [("id", .object [(Operator.equal.name, .string id)])]

/-- An outcome lists what a filter selects: the current nodes of the types of the query that
pass, each once. That there is none counts as found exactly if one node is enough. -/
structure Lists (query : Query) (store : Store) (filter : Filter) (outcome : Outcome) :
    Prop where
  mem_iff : ∀ stamped, stamped ∈ outcome.nodes ↔
    store.Current stamped ∧ stamped.type ∈ query.types ∧ filter.matchesNode stamped = true
  nodup : outcome.nodes.Nodup
  notFound_iff : outcome = .notFound ↔ outcome.nodes = [] ∧ query.firstOnly = false

variable {query : Query} {store : Store} {id : String} {redirects : Redirects}
  {stamped : StampedNode}

/-- The text is read off filters of this shape only. -/
theorem idEquality?_eq_some_iff {filter : Json} :
    idEquality? filter = some id ↔ filter = idEquality id := by
  constructor
  · intro h
    unfold idEquality? at h
    split at h
    · rename_i name operators hname
      split at h
      · rename_i operator value hoperator
        split at h
        · rename_i hnames
          obtain ⟨rfl, rfl⟩ := hnames
          have htext : value = .string id := by cases value <;> simp_all [Json.text?]
          rw [singleMember?_eq_some_iff.mp hname, singleMember?_eq_some_iff.mp hoperator, htext]
          rfl
        · contradiction
      · contradiction
    · contradiction
  · rintro rfl
    simp [idEquality?, idEquality, singleMember?, Json.text?]

/-- The filter asks for no contributed field. -/
theorem fieldShortcut?_idEquality (hfilter : query.filter = idEquality id) :
    query.fieldShortcut? = none := by
  have hid : "id" ≠ "fields" := by decide
  simp [fieldShortcut?, hfilter, fieldEquality?, idEquality, singleMember?, hid]

/-- Compiling gives one condition on the path of the id. -/
theorem compile_idEquality [PatternEngine] (redirects : Redirects) (id : String) :
    Filter.compile redirects (idEquality id) =
      .ok ⟨[(redirects.target "id", .equal (.string id))]⟩ := by
  rfl

/-- On a path that is not redirected, the condition asks for the id of the node. -/
theorem matchesNode_idEquality (made : stamped.node.Made)
    (hcovers : redirects.covers "id" = false) (id : String) :
    Filter.matchesNode ⟨[(redirects.target "id", .equal (.string id))]⟩ stamped = true ↔
      stamped.id = id := by
  have hsplit : Path.split "id" = ["id"] := rfl
  rw [Filter.matchesNode_of_not_covers hcovers hsplit (by decide), made.at?_id]
  simp [Condition.holds, Json.equals, Json.agrees, Json.same, StampedNode.id]

/-- On a redirected path, the condition fails for nodes without overlays. -/
theorem matchesNode_idEquality_of_covers (hcovers : redirects.covers "id" = true)
    (hoverlay : stamped.overlay = none) (id : String) :
    Filter.matchesNode ⟨[(redirects.target "id", .equal (.string id))]⟩ stamped = false := by
  rw [Filter.matchesNode_of_covers hcovers, hoverlay]
  rfl

/-- Where a scan is left to do, the id is looked up, whatever the candidates are. -/
theorem execute_idEquality [PatternEngine] (hfilter : query.filter = idEquality id)
    (store : Store) {plan : Plan} (hfull : plan.scan = .full) :
    query.execute store plan = .ok ⟨query.answerById store id, .full, 1⟩ := by
  have hid : idEquality? query.filter = some id := idEquality?_eq_some_iff.mpr hfilter
  simp only [execute, hfull, scan, hid]
  rw [hfilter, compile_idEquality]
  rfl

/-- Planning does not fail, and executing the plan looks up the id. -/
theorem execute_plan_idEquality [PatternEngine] (hfilter : query.filter = idEquality id)
    (store : Store) (cache : IndexCache) (counters : Counters) :
    ∃ plan, (query.plan store cache counters).outcome = .ok plan ∧
      query.execute store plan = .ok
        { outcome := query.answerById store id
          scan := if (store.findAmong? id query.types).isSome then .byId else .full
          scanned := 1 } := by
  have hid : idEquality? query.filter = some id := idEquality?_eq_some_iff.mpr hfilter
  have planning := query.planning_plan store cache counters
  generalize (query.plan store cache counters).outcome = planned at planning ⊢
  cases planning with
  | refused asked invalid => simp [fieldShortcut?_idEquality hfilter] at asked
  | indexed use found => exact absurd (fieldShortcut?_idEquality hfilter) use.asked_ne_none
  | byId _ asked found =>
    obtain rfl := Option.some.inj (hid.symm.trans asked)
    refine ⟨_, rfl, ?_⟩
    simp [execute, answerById, found]
  | full _ unidentified =>
    have hnone : store.findAmong? id query.types = none := by
      simpa [planById, hid] using unidentified
    refine ⟨_, rfl, ?_⟩
    rw [execute_idEquality hfilter store rfl, hnone]
    rfl

/-- However the query is planned, the id is looked up. -/
theorem runQuery_idEquality [PatternEngine] (context : Context)
    (hfilter : query.filter = idEquality id) :
    (context.runQuery query).outcome =
      .ok
        { outcome := query.answerById context.store id
          scan := if (context.store.findAmong? id query.types).isSome then .byId else .full
          scanned := 1 } := by
  obtain ⟨plan, hplan, hexecute⟩ :=
    execute_plan_idEquality hfilter context.store context.cache context.counters
  rw [(context.runQuery_eq query).1, Context.planAndExecute_outcome, hplan]
  simp only [hexecute]
  rfl

/-- A node of a type of the query is found by its id. -/
theorem answerById_of_mem {node : Node} (hlive : store.get? id = some node)
    (htype : node.type ∈ query.types) :
    query.answerById store id = .found [store.stamp node] := by
  have hfound : store.findAmong? id query.types = some (store.stamp node) :=
    Store.findAmong?_eq_some_iff.mpr ⟨node, hlive, htype, rfl⟩
  simp only [answerById, hfound]

/-- Without a node of a type of the query, nothing is found by the id, and this counts as found
if one node is enough. -/
theorem answerById_of_forall_not_mem
    (h : ∀ node, store.get? id = some node → node.type ∉ query.types) :
    query.answerById store id = if query.firstOnly then .found [] else .notFound := by
  have hnone : store.findAmong? id query.types = none := by
    rw [Option.eq_none_iff_forall_ne_some]
    intro stamped hfound
    obtain ⟨node, hlive, htype, -⟩ := Store.findAmong?_eq_some_iff.mp hfound
    exact h node hlive htype
  simp only [answerById, hnone]

/-- The lookup of an id that is not redirected lists what the compiled filter selects. -/
theorem lists_answerById (consistent : store.Consistent)
    (hcovers : query.redirects.covers "id" = false) (id : String) :
    query.Lists store ⟨[(query.redirects.target "id", .equal (.string id))]⟩
      (query.answerById store id) where
  mem_iff := by
    intro stamped
    rw [mem_answerById_iff consistent]
    refine and_congr_right fun hcurrent => and_congr_right fun _ => ?_
    exact (matchesNode_idEquality (consistent.made _ _ hcurrent.live) hcovers id).symm
  nodup := by
    unfold answerById
    cases store.findAmong? id query.types with
    | none => cases query.firstOnly <;> simp [Outcome.nodes]
    | some only => simp [Outcome.nodes]
  notFound_iff := by
    unfold answerById
    cases store.findAmong? id query.types with
    | none => cases query.firstOnly <;> simp [Outcome.nodes]
    | some only => simp [Outcome.nodes]

/-- A node with nothing but its id, type and digest. -/
def plainNode : Node := Node.bare "a" "Post" "d"

/-- The store that holds this node alone. -/
def plainStore : Store := Store.empty.put plainNode

/-- The query for this node by its id. -/
def plainQuery (redirects : Redirects) : Query :=
  ⟨["Post"], idEquality "a", none, false, redirects⟩

private theorem reachable_plainStore : plainStore.Reachable :=
  Store.Reachable.empty.change (.add plainNode (Node.Made.bare ..))

private theorem runQuery_plainQuery [PatternEngine] (redirects : Redirects) :
    ((Context.create plainStore Settings.standard).runQuery (plainQuery redirects)).outcome =
      .ok ⟨.found [plainStore.stamp plainNode], .byId, 1⟩ := by
  have hfilter : (plainQuery redirects).filter = idEquality "a" := rfl
  rw [runQuery_idEquality _ hfilter]
  rfl

/-- Where the path of the id is redirected, the node is found, but the compiled filter does not
let it pass. -/
private theorem plainQuery_unselected [PatternEngine] (hcovers : redirects.covers "id" = true)
    {filter : Filter}
    (hcompile : Filter.compile redirects (plainQuery redirects).filter = .ok filter) :
    filter.matchesNode (plainStore.stamp plainNode) = false ∧
      ¬(plainQuery redirects).Lists plainStore filter
        (.found [plainStore.stamp plainNode]) := by
  obtain rfl := Except.ok.inj ((compile_idEquality redirects "a").symm.trans hcompile)
  have hoverlay : (plainStore.stamp plainNode).overlay = none := rfl
  have hfails := matchesNode_idEquality_of_covers hcovers hoverlay "a"
  refine ⟨hfails, fun hlists => ?_⟩
  have hmatches := ((hlists.mem_iff _).mp (List.mem_singleton_self _)).2.2
  exact Bool.false_ne_true (hfails.symm.trans hmatches)

/-- A query that asks for equality of the id is answered, whether planning or a scan looks up
the id, by what its compiled filter selects, exactly if the path of the id is not
redirected. -/
theorem lists_idEquality_iff [PatternEngine] (redirects : Redirects) :
    (∀ (context : Context) (query : Query) (id : String), context.store.Reachable →
        query.redirects = redirects → query.filter = idEquality id →
        ∃ filter, Filter.compile query.redirects query.filter = .ok filter ∧
          (∃ answer, (context.runQuery query).outcome = .ok answer ∧
            query.Lists context.store filter answer.outcome) ∧
          ∀ plan : Plan, plan.scan = .full →
            ∃ answer, query.execute context.store plan = .ok answer ∧
              query.Lists context.store filter answer.outcome) ↔
      redirects.covers "id" = false := by
  constructor
  · intro h
    rw [← Bool.not_eq_true]
    intro hcovers
    obtain ⟨filter, hcompile, ⟨answer, hanswer, hlists⟩, -⟩ :=
      h (Context.create plainStore Settings.standard) (plainQuery redirects) "a"
        reachable_plainStore rfl rfl
    obtain rfl := Except.ok.inj ((runQuery_plainQuery redirects).symm.trans hanswer)
    exact (plainQuery_unselected hcovers hcompile).2 hlists
  · rintro hcovers context query id reachable rfl hfilter
    have hlists := lists_answerById reachable.consistent hcovers id
    refine ⟨_, hfilter ▸ compile_idEquality query.redirects id, ?_, ?_⟩
    · exact ⟨_, runQuery_idEquality context hfilter, hlists⟩
    · intro plan hfull
      exact ⟨_, execute_idEquality hfilter context.store hfull, hlists⟩

section Dialect

open scoped PatternEngine

/-- Where the id itself is declared to be resolved, planning finds a node by its id that the
compiled filter does not let pass. -/
theorem idEquality_redirected_unselected :
    plainStore.Reachable ∧
      (plainQuery (.ofPaths ["id"])).filter = idEquality "a" ∧
      ((Context.create plainStore Settings.standard).runQuery
        (plainQuery (.ofPaths ["id"]))).outcome =
          .ok ⟨.found [plainStore.stamp plainNode], .byId, 1⟩ ∧
      ∀ filter, Filter.compile (.ofPaths ["id"]) (plainQuery (.ofPaths ["id"])).filter =
          .ok filter →
        filter.matchesNode (plainStore.stamp plainNode) = false ∧
          ¬(plainQuery (.ofPaths ["id"])).Lists plainStore filter
            (.found [plainStore.stamp plainNode]) := by
  have hcovers : (Redirects.ofPaths ["id"]).covers "id" = true := by decide
  refine ⟨reachable_plainStore, rfl, runQuery_plainQuery _, fun filter hcompile => ?_⟩
  exact plainQuery_unselected hcovers hcompile

end Dialect

/-- A query for an id is planned without failing, and executing its plan gives the same outcome,
and looks at as many nodes, as executing a scan that is left to do with any candidates. The
outcome is the node with the id and its overlay if the node is there and of a type of the query.
Otherwise nothing is found, and this counts as found if one node is enough. -/
theorem idEquality_paths_agree [PatternEngine] (store : Store) (cache : IndexCache)
    (counters : Counters) (types : List String) (id : String) (sort : Option SortSpec)
    (firstOnly : Bool) (redirects : Redirects) :
    let query : Query := ⟨types, idEquality id, sort, firstOnly, redirects⟩
    ∃ plan answer, (query.plan store cache counters).outcome = .ok plan ∧
      query.execute store plan = .ok answer ∧
      (∀ candidates index, ∃ other,
        query.execute store ⟨.full, candidates, index⟩ = .ok other ∧
          other.outcome = answer.outcome ∧ other.scanned = answer.scanned) ∧
      (∀ node, store.get? id = some node → node.type ∈ types →
        answer.outcome = .found [store.stamp node]) ∧
      ((∀ node, store.get? id = some node → node.type ∉ types) →
        answer.outcome = if firstOnly then .found [] else .notFound) ∧
      (store.Reachable → ∀ stamped, stamped ∈ answer.outcome.nodes ↔
        store.Current stamped ∧ stamped.type ∈ types ∧ stamped.id = id) := by
  intro query
  have hfilter : query.filter = idEquality id := rfl
  obtain ⟨plan, hplan, hanswer⟩ := execute_plan_idEquality hfilter store cache counters
  refine ⟨plan, _, hplan, hanswer, ?_, ?_, ?_, ?_⟩
  · intro candidates index
    exact ⟨_, execute_idEquality hfilter store rfl, rfl, rfl⟩
  · intro node hlive htype
    exact answerById_of_mem hlive htype
  · intro hnone
    exact answerById_of_forall_not_mem hnone
  · intro reachable stamped
    exact mem_answerById_iff reachable.consistent

end TypedStore.Query
