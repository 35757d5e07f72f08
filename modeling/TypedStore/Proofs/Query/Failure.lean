import TypedStore.Pattern.Dialect
import TypedStore.Proofs.Filter.Panic
import TypedStore.Proofs.Query.Identity
import TypedStore.Proofs.Query.Shortcut

/-!
# Which queries fail

A query fails for one of two reasons: it asks for equality of a contributed field under a
name that no index can have, or its filter cannot be compiled. Planning finds the first
reason, and it can answer from an index or by an id without compiling the filter. Filters
that are answered in this way can be compiled, so no fault of a filter goes unnoticed. A query
panics where compiling its filter does, which takes a glob without a matcher.
-/

namespace TypedStore

namespace FieldPath

/-- Why a contributed field with a name of this kind can have no index. -/
def refusal (name : String) : IndexError :=
  ⟨contributed ++ name, if name = "" then .emptyFieldName else .emptySegment⟩

/-- Exactly the names that are empty or have an empty segment are refused. -/
theorem ofField_eq_error_iff {name : String} {e : IndexError} :
    ofField name = .error e ↔ (name = "" ∨ "" ∈ Path.split name) ∧ e = refusal name := by
  rw [ofField_eq]
  by_cases hname : name = ""
  · simp [hname, refusal, eq_comm]
  · by_cases hsegment : "" ∈ Path.split name <;> simp [hname, hsegment, refusal, eq_comm]

end FieldPath

namespace Query

/-- A query asks for equality of a contributed field that is not redirected and whose name is
empty or has an empty segment between dots. -/
structure RefusedField (query : Query) (name : String) : Prop where
  asked : ∃ value, query.filter = fieldEquality name value
  unredirected : query.redirects.covers ("fields." ++ name) = false
  unnamed : name = "" ∨ "" ∈ Path.split name

/-- What becomes of a query. -/
inductive Verdict [PatternEngine] (query : Query) : Except (Stop ContextError) Answer → Prop
  /-- The name of the contributed field is refused. -/
  | refused {name : String} (h : query.RefusedField name) :
      Verdict query (.error (.fault (.query (.shortcutFailed name (FieldPath.refusal name)))))
  /-- The filter cannot be compiled. -/
  | invalid (accepted : ∀ name, ¬query.RefusedField name) {fault : FilterError}
      (h : Filter.compile query.redirects query.filter = .error (.fault fault)) :
      Verdict query (.error (.fault (.filter fault)))
  /-- Compiling the filter panics. -/
  | panicked (accepted : ∀ name, ¬query.RefusedField name)
      (h : Filter.compile query.redirects query.filter = .error .panic) :
      Verdict query (.error .panic)
  | answered (accepted : ∀ name, ¬query.RefusedField name) {filter : Filter}
      (h : Filter.compile query.redirects query.filter = .ok filter) (answer : Answer) :
      Verdict query (.ok answer)

variable {query : Query} {store : Store} {cache : IndexCache} {name : String}

/-- The field of a query is refused exactly if planning asks for it and it can have no index. -/
theorem refusedField_iff :
    query.RefusedField name ↔ (∃ value, query.fieldShortcut? = some (name, value)) ∧
      ∃ e, FieldPath.ofField name = .error e := by
  simp only [fieldShortcut?_eq_some_iff, FieldPath.ofField_eq_error_iff]
  constructor
  · rintro ⟨⟨value, hfilter⟩, hcovers, hname⟩
    exact ⟨⟨value, hfilter, hcovers⟩, _, hname, rfl⟩
  · rintro ⟨⟨value, hfilter, hcovers⟩, _, hname, -⟩
    exact ⟨⟨value, hfilter⟩, hcovers, hname⟩

/-- A query asks for one field only. -/
theorem RefusedField.unique {other : String} (h : query.RefusedField name)
    (hother : query.RefusedField other) : name = other := by
  obtain ⟨value, hfilter⟩ := h.asked
  obtain ⟨operand, hfilter'⟩ := hother.asked
  exact (fieldEquality_inj.mp (hfilter.symm.trans hfilter')).1

/-- Where use is made of an index, the field is not refused. -/
theorem IndexUse.not_refusedField (use : query.IndexUse store cache) (name : String) :
    ¬query.RefusedField name := by
  rw [refusedField_iff]
  rintro ⟨⟨value, asked⟩, e, invalid⟩
  exact use.ofField_ne_error asked e invalid

/-- Where planning goes past the indexes, the field is not refused. -/
theorem Unindexed.not_refusedField (unindexed : query.Unindexed store cache) (name : String) :
    ¬query.RefusedField name := by
  rw [refusedField_iff]
  rintro ⟨⟨value, asked⟩, e, invalid⟩
  exact unindexed.accepted name value e asked invalid

section Engine

variable [PatternEngine]

/-- Equality of a contributed field with a scalar can be compiled, whatever the name is. -/
theorem exists_compile_fieldEquality (redirects : Redirects) (name : String) {value : Json}
    (hvalue : value.isScalar = true) :
    ∃ filter, Filter.compile redirects (fieldEquality name value) = .ok filter := by
  by_cases hname : name = elementOperator
  · -- The name is read as the operator on elements, and the equality as their filter.
    subst hname
    cases value with
    | null | array | object => simp [Json.isScalar] at hvalue
    | bool | number | string => exact ⟨_, rfl⟩
  · exact ⟨_, compile_fieldEquality redirects hname hvalue⟩

/-- A query that an index has nodes for has a filter that can be compiled. -/
theorem IndexUse.exists_compile (use : query.IndexUse store cache) {found : List StampedNode}
    (hfound : use.found? = some found) :
    ∃ filter, Filter.compile query.redirects query.filter = .ok filter := by
  obtain ⟨hfilter, -⟩ := fieldShortcut?_eq_some_iff.mp use.asked
  rw [hfilter]
  exact exists_compile_fieldEquality query.redirects use.field (use.isScalar_of_found hfound)

/-- A scan stops exactly if compiling the filter does, and for the same reason. -/
theorem scan_cases (query : Query) (store : Store) (candidates : List StampedNode) :
    (∃ stop, Filter.compile query.redirects query.filter = .error stop ∧
        query.scan store candidates = .error stop) ∨
      ∃ filter, Filter.compile query.redirects query.filter = .ok filter ∧
        ∃ result, query.scan store candidates = .ok result := by
  cases hcompile : Filter.compile query.redirects query.filter with
  | error stop => exact Or.inl ⟨stop, rfl, by simp only [scan, hcompile]⟩
  | ok filter =>
    refine Or.inr ⟨filter, rfl, ?_⟩
    simp only [scan, hcompile]
    split
    · exact ⟨_, rfl⟩
    · split
      · exact ⟨_, rfl⟩
      · split <;> exact ⟨_, rfl⟩

/-- Whatever the store and the cached indexes are, one of these becomes of a query. -/
theorem verdict_runQuery (context : Context) (query : Query) :
    query.Verdict (context.runQuery query).outcome := by
  have planning := query.planning_plan context.store context.cache context.counters
  rw [(context.runQuery_eq query).1, Context.planAndExecute_outcome]
  generalize (query.plan context.store context.cache context.counters).outcome = planned
    at planning ⊢
  cases planning with
  | refused asked invalid =>
    obtain ⟨-, rfl⟩ := FieldPath.ofField_eq_error_iff.mp invalid
    exact .refused (refusedField_iff.mpr ⟨⟨_, asked⟩, _, invalid⟩)
  | indexed use found =>
    obtain ⟨filter, hcompile⟩ := use.exists_compile found
    exact .answered use.not_refusedField hcompile _
  | byId unindexed asked found =>
    have hcompile : Filter.compile query.redirects query.filter = .ok _ :=
      idEquality?_eq_some_iff.mp asked ▸ compile_idEquality query.redirects _
    exact .answered unindexed.not_refusedField hcompile _
  | full unindexed _ =>
    simp only [execute]
    rcases query.scan_cases context.store (query.candidates context.store) with
      ⟨stop, hcompile, hscan⟩ | ⟨filter, hcompile, result, hscan⟩
    · rw [hscan]
      cases stop with
      | fault e => exact .invalid unindexed.not_refusedField hcompile
      | panic => exact .panicked unindexed.not_refusedField hcompile
    · rw [hscan]
      exact .answered unindexed.not_refusedField hcompile _

/-- Where there are matchers for the globs that its filter asks for, a query does not panic. -/
theorem runQuery_ne_panic (matchable : Filter.Matchable query.filter) (context : Context) :
    (context.runQuery query).outcome ≠ .error .panic := by
  have hverdict := query.verdict_runQuery context
  intro hpanic
  rw [hpanic] at hverdict
  cases hverdict with
  | panicked _ h => exact matchable.compile_ne_panic query.redirects h

/-- A query fails for want of an index exactly if the field that it asks for is refused, and
then for the reason that its name is. Any other query fails with the fault of its filter
exactly if the filter has one, panics exactly if compiling the filter does, and is answered
otherwise. So the filter of every query that is answered can be compiled. Where there are
matchers for the globs that the filter asks for, the query does not panic. -/
theorem runQuery_outcome_iff (context : Context) (query : Query) :
    ((∃ e, (context.runQuery query).outcome = .error (.fault e) ∧
        e.code = "NODEQ_INDEX_SHORTCUT_FAILED") ↔ ∃ name, query.RefusedField name) ∧
      (∀ name, query.RefusedField name → (context.runQuery query).outcome =
        .error (.fault (.query (.shortcutFailed name (FieldPath.refusal name))))) ∧
      ((∀ name, ¬query.RefusedField name) →
        (∀ e, (context.runQuery query).outcome = .error (.fault e) ∧
            e.code = "NODEQ_FILTER_INVALID" ↔
          ∃ fault, e = .filter fault ∧
            Filter.compile query.redirects query.filter = .error (.fault fault)) ∧
        ((∃ answer, (context.runQuery query).outcome = .ok answer) ↔
          ∃ filter, Filter.compile query.redirects query.filter = .ok filter) ∧
        ((context.runQuery query).outcome = .error .panic ↔
          Filter.compile query.redirects query.filter = .error .panic) ∧
        (Filter.Matchable query.filter →
          (∀ fault, Filter.compile query.redirects query.filter ≠ .error (.fault fault)) →
          ∃ answer, (context.runQuery query).outcome = .ok answer)) ∧
      ∀ answer, (context.runQuery query).outcome = .ok answer →
        ∃ filter, Filter.compile query.redirects query.filter = .ok filter := by
  have hverdict := query.verdict_runQuery context
  generalize (context.runQuery query).outcome = outcome at hverdict ⊢
  cases hverdict with
  | refused h =>
    refine ⟨⟨fun _ => ⟨_, h⟩, fun _ => ⟨_, rfl, rfl⟩⟩, ?_, ?_, by simp⟩
    · intro other hother
      rw [h.unique hother]
    · exact fun accepted => absurd h (accepted _)
  | @invalid accepted fault h =>
    refine ⟨⟨?_, fun hname => absurd hname (not_exists.mpr accepted)⟩,
      fun name hname => absurd hname (accepted name),
      fun _ => ⟨?_, by simp [h], by simp [h], ?_⟩, by simp⟩
    · rintro ⟨e, he, hcode⟩
      obtain rfl := Stop.fault.inj (Except.error.inj he)
      simp [ContextError.code, FilterError.code] at hcode
    · intro e
      simp only [h, Except.error.injEq, Stop.fault.injEq]
      constructor
      · rintro ⟨rfl, -⟩
        exact ⟨fault, rfl, rfl⟩
      · rintro ⟨_, rfl, rfl⟩
        exact ⟨rfl, rfl⟩
    · exact fun _ faultless => absurd h (faultless fault)
  | panicked accepted h =>
    refine ⟨⟨by simp, fun hname => absurd hname (not_exists.mpr accepted)⟩,
      fun name hname => absurd hname (accepted name),
      fun _ => ⟨by simp [h], by simp [h], by simp [h], ?_⟩, by simp⟩
    exact fun matchable _ => absurd h (matchable.compile_ne_panic query.redirects)
  | answered accepted h answer =>
    exact ⟨⟨by simp, fun hname => absurd hname (not_exists.mpr accepted)⟩,
      fun name hname => absurd hname (accepted name), by simp [h], fun _ _ => ⟨_, h⟩⟩

end Engine

/-- A query for the posts whose name is matched by a glob. -/
def globQuery : Query :=
  ⟨["Post"], .object [("name", .object [("glob", .string "a")])], none, false, Redirects.none⟩

/-- The query asks for no other glob. -/
private theorem eq_of_asksGlob {text : String} (h : Filter.AsksGlob text globQuery.filter) :
    text = "a" := by
  cases h with
  | operand mem => simp [Operator.name] at mem
  | inner mem asked =>
    obtain ⟨-, rfl⟩ := Prod.mk.inj (List.mem_singleton.mp mem)
    cases asked with
    | operand mem => exact Json.string.inj (Prod.mk.inj (List.mem_singleton.mp mem)).2
    | inner mem asked =>
      obtain ⟨-, rfl⟩ := Prod.mk.inj (List.mem_singleton.mp mem)
      nomatch asked

open scoped PatternEngine

/-- There is a matcher for the glob, so the query is answered. -/
theorem runQuery_outcome_iff_globQuery :
    Filter.Matchable globQuery.filter ∧ (∀ name, ¬globQuery.RefusedField name) ∧
      (∀ fault, Filter.compile globQuery.redirects globQuery.filter ≠ .error (.fault fault)) ∧
      ∃ answer, ((Context.create plainStore Settings.standard).runQuery globQuery).outcome =
        .ok answer := by
  have matchable : Filter.Matchable globQuery.filter := by
    intro text asked
    rw [eq_of_asksGlob asked]
    decide +kernel
  have accepted (name : String) : ¬globQuery.RefusedField name := by
    rintro ⟨⟨value, hfilter⟩, -, -⟩
    simp [globQuery, fieldEquality] at hfilter
  obtain ⟨-, -, hothers, -⟩ :=
    runQuery_outcome_iff (Context.create plainStore Settings.standard) globQuery
  obtain ⟨-, -, -, hsucceeds⟩ := hothers accepted
  have hcompile : ∃ filter, Filter.compile globQuery.redirects globQuery.filter = .ok filter :=
    ⟨_, rfl⟩
  have faultless (fault : FilterError) :
      Filter.compile globQuery.redirects globQuery.filter ≠ .error (.fault fault) := by
    obtain ⟨filter, hfilter⟩ := hcompile
    simp [hfilter]
  exact ⟨matchable, accepted, faultless, hsucceeds matchable faultless⟩

end Query

end TypedStore
