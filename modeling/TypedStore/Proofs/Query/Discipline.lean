import Mathlib.Data.List.Nodup
import TypedStore.Pattern.Dialect
import TypedStore.Proofs.Context.History
import TypedStore.Proofs.Query.Shortcut
import TypedStore.Proofs.Store.Past

/-!
# The form of answers

An answer has a form that does not depend on the way in which the query was answered. Where
one node is enough, finding none counts as found, and otherwise it does not. No two nodes of
an answer have one id, and there are not more nodes than were looked at. For a scan this
comes from the two views of the store, for an index from the store that it was built from,
however old that is.
-/

namespace TypedStore

/-- The form of the answers to a query. -/
structure Query.Formed (query : Query) (answer : Answer) : Prop where
  /-- Where one node is enough, one at most is found, and finding none counts as found. -/
  first : query.firstOnly = true →
    ∃ nodes, answer.outcome = .found nodes ∧ nodes.length ≤ 1
  /-- Otherwise what counts as found has some node. -/
  many : query.firstOnly = false →
    answer.outcome = .notFound ∨ ∃ nodes, answer.outcome = .found nodes ∧ nodes ≠ []
  distinct : (answer.outcome.nodes.map StampedNode.id).Nodup
  counted : answer.outcome.nodes.length ≤ answer.scanned

namespace Query

variable {query : Query} {store : Store} {cache : IndexCache} {scan : ScanKind} {scanned : Nat}

/-- Each of the distinct texts of a list is listed once. -/
theorem nodup_distinct (texts : List String) : (distinct texts).Nodup := by
  induction texts with
  | nil => exact List.nodup_nil
  | cons first rest ih =>
    refine List.nodup_cons.mpr ⟨?_, ih.filter _⟩
    simp [List.mem_filter]

/-- No two candidates have one id, even if a type is asked for twice. -/
theorem nodup_ids_candidates (consistent : store.Consistent) (query : Query) :
    ((query.candidates store).map StampedNode.id).Nodup := by
  rw [candidates, List.map_flatMap, List.nodup_flatMap]
  constructor
  · intro type _
    have hascending := (consistent.pairwise_nodesOfType type).imp String.ne_of_lt
    exact List.pairwise_map.mpr (List.pairwise_map.mpr hascending)
  · refine (nodup_distinct query.types).imp fun {type other} hne => ?_
    intro id hid hother
    obtain ⟨stamped, hmem, rfl⟩ := List.mem_map.mp hid
    obtain ⟨twin, htwin, hsame⟩ := List.mem_map.mp hother
    obtain ⟨node, hlive, rfl, rfl⟩ := consistent.mem_stampedOfType_iff.mp hmem
    obtain ⟨node', hlive', rfl, rfl⟩ := consistent.mem_stampedOfType_iff.mp htwin
    have hids : node'.id = node.id := hsame
    rw [hids, hlive] at hlive'
    exact hne (congrArg Node.type (Option.some.inj hlive'))

/-- A scan for one node has looked at what it finds. -/
theorem length_scanFirst_le (filter : Filter) (nodes : List StampedNode) :
    (scanFirst filter nodes).1.toList.length ≤ (scanFirst filter nodes).2 := by
  induction nodes with
  | nil => simp [scanFirst]
  | cons node rest ih =>
    by_cases hpasses : filter.matchesNode node = true
    · simp [scanFirst, hpasses]
    · simp only [scanFirst, if_neg hpasses]
      omega

/-- An answer with one node at most has the form where one node is enough. -/
theorem formed_of_option (first : query.firstOnly = true) (found : Option StampedNode)
    (hscanned : found.toList.length ≤ scanned) :
    query.Formed ⟨.found found.toList, scan, scanned⟩ where
  first _ := ⟨_, rfl, by cases found <;> simp⟩
  many hmany := by simp [first] at hmany
  distinct := by cases found <;> simp [Outcome.nodes]
  counted := hscanned

/-- An answer with one node has the form in either case. -/
theorem formed_singleton (stamped : StampedNode) (hscanned : 1 ≤ scanned) :
    query.Formed ⟨.found [stamped], scan, scanned⟩ where
  first _ := ⟨_, rfl, by simp⟩
  many _ := Or.inr ⟨_, rfl, by simp⟩
  distinct := by simp [Outcome.nodes]
  counted := hscanned

/-- An answer with some nodes has the form where more than one is asked for. -/
theorem formed_of_ne_nil (many : query.firstOnly = false) {nodes : List StampedNode}
    (hsome : nodes ≠ []) (hdistinct : (nodes.map StampedNode.id).Nodup)
    (hscanned : nodes.length ≤ scanned) :
    query.Formed ⟨.found nodes, scan, scanned⟩ where
  first hfirst := by simp [many] at hfirst
  many _ := Or.inr ⟨nodes, rfl, hsome⟩
  distinct := hdistinct
  counted := hscanned

/-- That nothing is found has the form where more than one node is asked for. -/
theorem formed_notFound (many : query.firstOnly = false) :
    query.Formed ⟨.notFound, scan, scanned⟩ where
  first hfirst := by simp [many] at hfirst
  many _ := Or.inl rfl
  distinct := List.nodup_nil
  counted := Nat.zero_le _

/-- The answer of a lookup of an id has the form. -/
theorem formed_answerById (query : Query) (store : Store) (id : String) :
    query.Formed ⟨query.answerById store id, scan, 1⟩ := by
  unfold answerById
  cases store.findAmong? id query.types with
  | some stamped => exact formed_singleton stamped (Nat.le_refl _)
  | none =>
    cases hfirst : query.firstOnly with
    | true => exact formed_of_option hfirst none (by simp)
    | false => exact formed_notFound hfirst

/-- The answer of a scan of the candidates has the form. -/
theorem Scanned.formed (consistent : store.Consistent) {filter : Filter} {result : Outcome × Nat}
    (h : query.Scanned store (query.candidates store) filter result) :
    query.Formed ⟨result.1, scan, result.2⟩ := by
  cases h with
  | byId => exact query.formed_answerById store _
  | first _ first => exact formed_of_option first _ (length_scanFirst_le filter _)
  | none _ many => exact formed_notFound many
  | many _ many something =>
    have hperm := query.perm_sorted ((query.candidates store).filter filter.matchesNode)
    refine formed_of_ne_nil many (fun hnil => something ?_) ?_ ?_
    · exact (hnil ▸ hperm).symm.eq_nil
    · have hcandidates := query.nodup_ids_candidates consistent
      exact (hperm.map StampedNode.id).nodup_iff.mpr
        (hcandidates.sublist (List.filter_sublist.map StampedNode.id))
    · rw [hperm.length_eq]
      exact List.length_filter_le _ _

/-- Answers have the form if no bucket that is found has two nodes with one id. -/
theorem Answered.formed [PatternEngine] (consistent : store.Consistent) {answer : Answer}
    (hbuckets : ∀ (use : query.IndexUse store cache) (found : List StampedNode),
      use.found? = some found → (found.map StampedNode.id).Nodup)
    (answered : query.Answered store cache answer) : query.Formed answer := by
  cases answered with
  | @indexed use node nodes found =>
    cases hfirst : query.firstOnly with
    | true =>
      rw [if_pos rfl]
      exact formed_of_option hfirst _ (by simp [firstScanned])
    | false => exact formed_of_ne_nil hfirst (by simp) (hbuckets use _ found) (Nat.le_refl _)
  | byId _ found => exact formed_singleton _ (Nat.le_refl _)
  | scanned _ _ h =>
    obtain ⟨filter, -, hscanned⟩ := scanned_of_scan h
    exact hscanned.formed consistent

end Query

namespace Context

section Engine

variable [PatternEngine] {context : Context} {history : List Step}

/-- The buckets of an index that was built in a history have no two nodes with one id. -/
theorem BuiltIn.nodup_ids {types : List String} {path : FieldPath} {index : FieldIndex}
    (h : context.BuiltIn history types path index) (reachable : context.store.Reachable)
    {key : IndexKey} {found : List StampedNode} (hbucket : index.bucket? key = some found) :
    (found.map StampedNode.id).Nodup := by
  obtain ⟨before, step, after, -, -, rfl⟩ := h
  have consistent := (reachable_run reachable before).consistent
  exact FieldIndex.nodup_ids_of_bucket? consistent hbucket

/-- In every history of a context, under either policy for indexes, a query that does not fail
has an answer of the form: where one node is enough, one at most is found and this counts as
found, otherwise nothing is found or some nodes are; no two of them have one id; and there are
not more of them than were looked at. -/
theorem runQuery_formed (changes : List Change) (settings : Settings) (history : List Step)
    (query : Query) (answer : Answer)
    (h : (((create (Store.ofHistory changes) settings).run history).runQuery query).outcome =
      .ok answer) : query.Formed answer := by
  have reachable : (create (Store.ofHistory changes) settings).store.Reachable :=
    Store.reachable_ofHistory changes
  have hempty : (create (Store.ofHistory changes) settings).cache.indexes = [] := rfl
  generalize create (Store.ofHistory changes) settings = start at h reachable hempty
  rw [((start.run history).runQuery_eq query).1] at h
  refine (answered_of_planAndExecute h).formed (reachable_run reachable history).consistent ?_
  intro use found hfound
  obtain ⟨types, path, index, key, -, hbuilt, hbucket⟩ := builtIn_of_found hempty use hfound
  exact hbuilt.nodup_ids reachable hbucket

end Engine

/-- Two nodes are added, one with a list of tags and one with a single tag. -/
def tagChanges : List Change :=
  [IndexCache.addTagged "a" (.array [.string "x", .string "y", .string "x"]),
    IndexCache.addTagged "b" (.string "x")]

/-- A query for nodes with a tag that asks for their type twice. -/
def tagQuery : Query :=
  ⟨["Post", "Post"], Query.fieldEquality "tag" (.string "x"), none, false, Redirects.none⟩

/-- The query is run, and then one of the nodes is deleted. -/
def tagHistory : List Step := [.query tagQuery, .write (.delete "a")]

open scoped PatternEngine

/-- Where indexes are used for ever, the query finds both nodes again, each once. -/
theorem runQuery_formed_tagged :
    ∃ answer, (((create (Store.ofHistory tagChanges) ⟨.sequential, .never, .info⟩).run
        tagHistory).runQuery tagQuery).outcome = .ok answer ∧
      answer.outcome.nodes.map StampedNode.id = ["a", "b"] ∧ tagQuery.Formed answer := by
  refine ⟨_, rfl, by decide, ?_⟩
  exact runQuery_formed tagChanges ⟨.sequential, .never, .info⟩ tagHistory tagQuery _ rfl

end Context

end TypedStore
