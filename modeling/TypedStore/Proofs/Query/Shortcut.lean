import TypedStore.Pattern.Dialect
import TypedStore.Proofs.Filter.Nesting
import TypedStore.Proofs.Query.Answer

/-!
# Equality of a contributed field

The filter that asks for equality of one contributed field is read twice: planning
reads the field and the value off its shape, and compiling gives it a meaning as any
other filter. Both readings agree unless the field is named like the operator that
tests the elements of arrays.
-/

namespace TypedStore

namespace FieldPath

/-- The segments of a path that names a contributed field, which needs a name. -/
theorem segmentsOf_contributed (name : String) :
    segmentsOf (contributed ++ name) =
      if name = "" then .error .emptyFieldName else .ok ("fields" :: Path.split name) := by
  have hstarts : contributed.toList.isPrefixOf (contributed ++ name).toList = true := by simp
  have hname : (contributed ++ name).toList.drop contributed.length = name.toList := by
    simp [← String.length_toList]
  simp only [segmentsOf, hstarts, if_true, hname, String.ofList_toList, List.isEmpty_iff,
    String.toList_eq_nil_iff]

/-- The path of a contributed field is refused if the name is empty or has an empty segment
between dots. -/
theorem ofField_eq (name : String) :
    ofField name =
      if name = "" then .error ⟨contributed ++ name, .emptyFieldName⟩
      else if "" ∈ Path.split name then .error ⟨contributed ++ name, .emptySegment⟩
      else .ok ⟨contributed ++ name, "fields" :: Path.split name⟩ := by
  have hempty (path : Path) : path.any String.isEmpty = true ↔ "" ∈ path := by
    simp [List.any_eq_true]
  unfold ofField parse
  rw [segmentsOf_contributed]
  by_cases hname : name = ""
  · simp only [if_pos hname]
  · simp only [if_neg hname, hempty, List.mem_cons, (by decide : "" ≠ "fields"), false_or]

/-- The segments of the path of a contributed field. -/
theorem segments_of_ofField {name : String} {path : FieldPath} (h : ofField name = .ok path) :
    path.segments = "fields" :: Path.split name := by
  rw [ofField_eq] at h
  split at h
  · contradiction
  · split at h
    · contradiction
    · obtain rfl := Except.ok.inj h
      rfl

end FieldPath

namespace Query

/-- The filter that asks for equality of one contributed field with a value. -/
def fieldEquality (name : String) (value : Json) : Json :=
  .object [("fields", .object [(name, .object [(Operator.equal.name, value)])])]

/-- An outcome is what a filter selects: the current nodes of the types of the query that
pass, and nothing found if there are none. -/
structure Selects (query : Query) (store : Store) (filter : Filter) (outcome : Outcome) :
    Prop where
  mem_iff : ∀ stamped, stamped ∈ outcome.nodes ↔
    store.Current stamped ∧ stamped.type ∈ query.types ∧ filter.matchesNode stamped = true
  notFound_iff : outcome = .notFound ↔
    ∀ stamped, store.Current stamped → stamped.type ∈ query.types →
      filter.matchesNode stamped = false

variable {query : Query} {store : Store} {cache : IndexCache} {name : String} {value : Json}

/-- The dotted paths of contributed fields start with their attribute. -/
private theorem fields_dot : "fields." = "fields" ++ "." := by decide

/-- The name and the value are read off filters of this shape only. -/
theorem fieldEquality?_eq_some_iff {filter : Json} :
    fieldEquality? filter = some (name, value) ↔ filter = fieldEquality name value := by
  constructor
  · intro h
    unfold fieldEquality? at h
    -- What is left when a member is missing or named otherwise contradicts `h`.
    repeat' split at h
    all_goals try contradiction
    rename_i _ fields hroot hfields _ _ operators hfield _ _ operand hoperator hequal
    obtain ⟨rfl, rfl⟩ := Prod.mk.inj (Option.some.inj h)
    rw [singleMember?_eq_some_iff.mp hroot, singleMember?_eq_some_iff.mp hfield,
      singleMember?_eq_some_iff.mp hoperator, hfields, hequal]
    rfl
  · rintro rfl
    simp [fieldEquality?, fieldEquality, singleMember?]

/-- Planning reads off the field and the value, unless the field is redirected. -/
theorem fieldShortcut?_eq_some_iff :
    query.fieldShortcut? = some (name, value) ↔
      query.filter = fieldEquality name value ∧
        query.redirects.covers ("fields." ++ name) = false := by
  rw [← fieldEquality?_eq_some_iff]
  unfold fieldShortcut?
  cases fieldEquality? query.filter with
  | none => simp
  | some found =>
    obtain ⟨field, operand⟩ := found
    by_cases hcovers : query.redirects.covers ("fields." ++ field) = true
    · simp only [if_pos hcovers, reduceCtorEq, Option.some.injEq, Prod.mk.injEq, false_iff]
      rintro ⟨⟨rfl, -⟩, h⟩
      exact absurd hcovers (Bool.eq_false_iff.mp h)
    · simp only [if_neg hcovers, Option.some.injEq, Prod.mk.injEq, iff_self_and]
      rintro ⟨rfl, -⟩
      exact Bool.eq_false_iff.mpr hcovers

/-- Filters of this shape tell the names and the values apart. -/
theorem fieldEquality_inj {field : String} {operand : Json} :
    fieldEquality name value = fieldEquality field operand ↔ name = field ∧ value = operand := by
  simp [fieldEquality]

/-- The filter asks for no id. -/
theorem idEquality?_fieldEquality (name : String) (value : Json) :
    idEquality? (fieldEquality name value) = none := by
  have hid : "fields" ≠ "id" := by decide
  simp [idEquality?, fieldEquality, singleMember?, hid]

/-- Compiling gives one condition on the path of the field, unless the field is named like
the operator on elements. -/
theorem compile_fieldEquality [PatternEngine] (redirects : Redirects)
    (hname : name ≠ elementOperator) (hvalue : value.isScalar = true) :
    Filter.compile redirects (fieldEquality name value) =
      .ok ⟨[(redirects.target ("fields." ++ name), .equal value)]⟩ := by
  have hjoin : Path.join ["fields", name] = "fields." ++ name := by
    rw [Path.join_cons _ (by simp), Path.join_singleton, ← fields_dot]
  have hnames : elementOperator ∉ ["fields", name] := by
    have hfields : elementOperator ≠ "fields" := by decide
    simpa [hfields] using Ne.symm hname
  have hoperand : ∀ members, value ≠ .object members := by
    rintro members rfl
    contradiction
  rw [← hjoin]
  exact Filter.compile_nest_operator (by simp) hnames hoperand rfl

/-- On a field that is not redirected, the condition asks for equality of the value of the
node itself. -/
theorem matchesNode_fieldEquality {redirects : Redirects}
    (hcovers : redirects.covers ("fields." ++ name) = false) (value : Json)
    (stamped : StampedNode) :
    Filter.matchesNode ⟨[(redirects.target ("fields." ++ name), .equal value)]⟩ stamped =
      Json.equals (stamped.node.at? ("fields" :: Path.split name)) value := by
  have hsplit : Path.split ("fields." ++ name) = "fields" :: Path.split name := by
    rw [fields_dot, Path.split_append (by decide)]
  rw [Filter.matchesNode_of_not_covers hcovers hsplit (by decide), Condition.holds]

/-- A scan for many nodes finds what the filter selects. -/
theorem selects_of_scanned {filter : Filter} {result : Outcome × Nat}
    (consistent : store.Consistent) (hid : idEquality? query.filter = none)
    (hmany : query.firstOnly = false)
    (h : query.Scanned store (query.candidates store) filter result) :
    query.Selects store filter result.1 := by
  have hmem (stamped : StampedNode) :
      stamped ∈ (query.candidates store).filter filter.matchesNode ↔
        store.Current stamped ∧ stamped.type ∈ query.types ∧
          filter.matchesNode stamped = true := by
    rw [List.mem_filter, mem_candidates_iff consistent, and_assoc]
  cases h with
  | byId asked => simp [hid] at asked
  | first _ first => simp [hmany] at first
  | none _ _ nothing =>
    rw [nothing] at hmem
    refine ⟨fun stamped => by simpa [Outcome.nodes] using hmem stamped, ?_⟩
    simp only [true_iff]
    intro stamped hcurrent htype
    rw [← Bool.not_eq_true]
    exact fun hmatches => List.not_mem_nil ((hmem stamped).mpr ⟨hcurrent, htype, hmatches⟩)
  | many _ _ something =>
    refine ⟨fun stamped => by rw [← hmem]; exact mem_sorted, ?_⟩
    obtain ⟨stamped, hstamped⟩ := List.exists_mem_of_ne_nil _ something
    obtain ⟨hcurrent, htype, hmatches⟩ := (hmem stamped).mp hstamped
    simp only [reduceCtorEq, false_iff]
    intro hnone
    simp [hnone stamped hcurrent htype] at hmatches

/-- Without cached indexes, what an index has for the value answers equality. -/
theorem IndexUse.answersEquality (use : query.IndexUse store cache)
    (consistent : store.Consistent) (hempty : cache.indexes = []) :
    store.AnswersEquality use.path.segments query.types use.value use.found? := by
  have hparse := FieldPath.parse_text_of_parse use.valid
  rcases cache.ensure_cases store query.types hparse with
    ⟨index, hindex, -⟩ | ⟨-, before, hensure⟩
  · simp [hempty, Table.get?] at hindex
  · rw [found?, Except.ok.inj (use.provided.symm.trans hensure)]
    exact cache.answersEquality_lookup?_build consistent hparse query.types before use.value

/-- An index has nodes for scalars only. -/
theorem IndexUse.isScalar_of_found (use : query.IndexUse store cache)
    {found : List StampedNode} (h : use.found? = some found) : use.value.isScalar = true := by
  obtain ⟨_, _, key, -, -, -, hkey, -⟩ :=
    IndexCache.bucket?_of_lookup? (FieldPath.text_ne_id_of_ofField use.valid) h
  rw [← Bool.not_eq_false, ← IndexKey.ofJson?_eq_none_iff, hkey]
  exact Option.some_ne_none key

/-- An index finds what the compiled filter selects. -/
theorem selects_of_found [PatternEngine] (consistent : store.Consistent)
    (hempty : cache.indexes = []) (hfilter : query.filter = fieldEquality name value)
    (hname : name ≠ elementOperator) (use : query.IndexUse store cache) {node : StampedNode}
    {nodes : List StampedNode} (hfound : use.found? = some (node :: nodes)) :
    ∃ filter, Filter.compile query.redirects query.filter = .ok filter ∧
      query.Selects store filter (.found (node :: nodes)) := by
  obtain ⟨hshape, hcovers⟩ := fieldShortcut?_eq_some_iff.mp use.asked
  obtain ⟨hfield, hvalue⟩ := fieldEquality_inj.mp (hfilter.symm.trans hshape)
  rw [← hfield] at hcovers
  have hanswer := use.answersEquality consistent hempty
  rw [hfound, FieldPath.segments_of_ofField use.valid, ← hfield, ← hvalue] at hanswer
  have hscalar : value.isScalar = true := hvalue ▸ use.isScalar_of_found hfound
  have hmem (stamped : StampedNode) : stamped ∈ node :: nodes ↔
      store.Current stamped ∧ stamped.type ∈ query.types ∧
        Filter.matchesNode ⟨[(query.redirects.target ("fields." ++ name), .equal value)]⟩
          stamped = true := by
    rw [hanswer.mem_iff _ rfl, Store.exists_qualifies_iff, matchesNode_fieldEquality hcovers]
  refine ⟨_, hfilter ▸ compile_fieldEquality query.redirects hname hscalar, hmem, ?_⟩
  obtain ⟨hcurrent, htype, hmatches⟩ := (hmem node).mp (List.mem_cons_self ..)
  simp only [reduceCtorEq, false_iff]
  intro hnone
  simp [hnone node hcurrent htype] at hmatches

/-- A node with a contributed field that is named like the operator on elements. -/
def elementNode : Node := (Node.bare "a" "Post" "d").withField elementOperator (.string "x")

/-- The store that holds this node alone. -/
def elementStore : Store := Store.empty.put elementNode

/-- The query for equality of this field with its value. -/
def elementQuery : Query :=
  ⟨["Post"], fieldEquality elementOperator (.string "x"), none, false, Redirects.none⟩

private theorem reachable_elementStore : elementStore.Reachable :=
  Store.Reachable.empty.change (.add elementNode ((Node.Made.bare ..).withField ..))

private theorem planAndExecute_elementQuery [PatternEngine] :
    ((Context.create elementStore Settings.standard).planAndExecute elementQuery).outcome =
      .ok ⟨.found [elementStore.stamp elementNode], .indexed, 1⟩ := by
  rfl

private theorem compile_elementQuery [PatternEngine] :
    Filter.compile elementQuery.redirects elementQuery.filter =
      .ok ⟨[(["fields"], .someElement [([], .equal (.string "x"))])]⟩ := by
  rfl

/-- The node is found, but the compiled filter does not let it pass. -/
private theorem elementQuery_unselected [PatternEngine] {filter : Filter}
    (hcompile : Filter.compile elementQuery.redirects elementQuery.filter = .ok filter) :
    ¬elementQuery.Selects elementStore filter
      (.found [elementStore.stamp elementNode]) := by
  obtain rfl := Except.ok.inj (compile_elementQuery.symm.trans hcompile)
  intro hselects
  have hmatches := ((hselects.mem_iff _).mp (List.mem_singleton_self _)).2.2
  exact absurd hmatches (by decide)

/-- In contexts without cached indexes, a query for many nodes that asks for equality of a
contributed field is answered, however it is planned, by what its compiled filter selects,
for every name of a field but that of the operator on elements. -/
theorem selects_fieldEquality_iff [PatternEngine] (name : String) :
    (∀ (context : Context) (query : Query) (value : Json) (answer : Answer),
        context.store.Reachable → context.cache.indexes = [] → query.firstOnly = false →
        query.filter = fieldEquality name value →
        (context.planAndExecute query).outcome = .ok answer →
        ∃ filter, Filter.compile query.redirects query.filter = .ok filter ∧
          query.Selects context.store filter answer.outcome) ↔
      name ≠ elementOperator := by
  constructor
  · rintro h rfl
    obtain ⟨filter, hcompile, hselects⟩ := h _ _ _ _ reachable_elementStore rfl rfl rfl
      planAndExecute_elementQuery
    exact elementQuery_unselected hcompile hselects
  · intro hname context query value answer reachable hempty hmany hfilter hanswer
    have hid : idEquality? query.filter = none := hfilter ▸ idEquality?_fieldEquality name value
    cases Context.answered_of_planAndExecute hanswer with
    | indexed use found =>
      rw [hmany]
      exact selects_of_found reachable.consistent hempty hfilter hname use found
    | byId asked => simp [hid] at asked
    | scanned _ _ h =>
      obtain ⟨filter, hcompile, hscanned⟩ := scanned_of_scan h
      exact ⟨filter, hcompile, selects_of_scanned reachable.consistent hid hmany hscanned⟩

open scoped PatternEngine

/-- For the name of the operator on elements, a node is found that the compiled filter does
not let pass. -/
theorem fieldEquality_elementOperator_unselected :
    elementStore.Reachable ∧
      elementQuery.filter = fieldEquality elementOperator (.string "x") ∧
      ((Context.create elementStore Settings.standard).planAndExecute elementQuery).outcome =
        .ok ⟨.found [elementStore.stamp elementNode], .indexed, 1⟩ ∧
      ∀ filter, Filter.compile elementQuery.redirects elementQuery.filter = .ok filter →
        filter.matchesNode (elementStore.stamp elementNode) = false ∧
          ¬elementQuery.Selects elementStore filter
            (.found [elementStore.stamp elementNode]) := by
  refine ⟨reachable_elementStore, rfl, planAndExecute_elementQuery, fun filter hcompile => ?_⟩
  refine ⟨?_, elementQuery_unselected hcompile⟩
  obtain rfl := Except.ok.inj (compile_elementQuery.symm.trans hcompile)
  decide

end Query

end TypedStore
