import TypedStore.Context.Basic
import TypedStore.Proofs.Store.Provenance

/-!
# How far a refresh gets

A refresh makes its passes in order and stops at the first one in which a node fails. The
overlays of the types of the passes before it have been replaced, each as a whole and each
counted as a change of the store; everything else is as it was.
-/

namespace TypedStore

namespace Store

/-- Some node fails in a pass. -/
def Failing (store : Store) (pass : Pass) : Prop :=
  ∃ node ∈ store.nodesOfType pass.type, pass.resolver.value? node = none

/-- A node fails in a pass for a reason, and all nodes of the type with lesser ids are
resolved. -/
structure FirstFailing (store : Store) (pass : Pass) (node : Node) (reason : String) : Prop where
  mem : node ∈ store.nodesOfType pass.type
  fails : (pass.resolver.resolve node).answer = .error reason
  least : ∀ other ∈ store.nodesOfType pass.type, other.id < node.id →
    (pass.resolver.value? other).isSome = true

/-- The overlays of the types of some passes have been replaced by the values of their nodes, and
nothing else has changed. Types without nodes are passed over. -/
structure Commits (store : Store) (passes : List Pass) (after : Store) : Prop where
  byId_eq : after.byId = store.byId
  byType_eq : after.byType = store.byType
  /-- All that is kept for such a type are the values for the ids of its nodes in its last pass. -/
  replaced : ∀ type pass, Pass.lastOver? type passes = some pass → store.nodesOfType type ≠ [] →
    ∃ values, after.overlays.byType.get? type = some values ∧
      ∀ id value, values.get? id = some value ↔
        ∃ node ∈ store.nodesOfType type, node.id = id ∧
          (pass.resolver.resolve node).answer = .ok value
  kept : ∀ type, (∀ pass ∈ passes, pass.type ≠ type) ∨ store.nodesOfType type = [] →
    after.overlays.byType.get? type = store.overlays.byType.get? type
  generation_eq : after.generation =
    store.generation + passes.countP fun pass => !(store.nodesOfType pass.type).isEmpty

variable {store after : Store} {pass : Pass} {passes : List Pass}

/-- The nodes of a type stay the same. -/
theorem Commits.nodesOfType_eq (h : store.Commits passes after) (type : String) :
    after.nodesOfType type = store.nodesOfType type := by
  simp only [nodesOfType, ofType, h.byType_eq]

/-- Nothing is replaced in no passes. -/
theorem commits_nil (store : Store) : store.Commits [] store where
  byId_eq := rfl
  byType_eq := rfl
  replaced := by simp [Pass.lastOver?]
  kept := fun _ _ => rfl
  generation_eq := by simp

/-- A pass over a type without nodes adds nothing to what is replaced. -/
theorem Commits.skip (hempty : store.nodesOfType pass.type = [])
    (h : store.Commits passes after) : store.Commits (pass :: passes) after where
  byId_eq := h.byId_eq
  byType_eq := h.byType_eq
  replaced := by
    intro type last hlast hnodes
    have hne : pass.type ≠ type := by
      rintro rfl
      exact hnodes hempty
    rw [Pass.lastOver?_cons, if_neg hne, Option.or_none] at hlast
    exact h.replaced type last hlast hnodes
  kept := by
    rintro type (hother | hnodes)
    · exact h.kept type (Or.inl fun later hlater => hother later (List.mem_cons_of_mem _ hlater))
    · exact h.kept type (Or.inr hnodes)
  generation_eq := by simpa [hempty] using h.generation_eq

/-- Where a type with nodes has been replaced and others are replaced then, all of them are.
A later pass over the same type replaces its overlays once more. -/
theorem Commits.cons {values : Dict Json} (hnodes : store.nodesOfType pass.type ≠ [])
    (hvalues : ∀ id value, values.get? id = some value ↔
      ∃ node ∈ store.nodesOfType pass.type, node.id = id ∧
        (pass.resolver.resolve node).answer = .ok value)
    (h : (store.withOverlays pass.type values).Commits passes after) :
    store.Commits (pass :: passes) after where
  byId_eq := h.byId_eq
  byType_eq := h.byType_eq
  replaced := by
    intro type last hlast htype
    rw [Pass.lastOver?_cons] at hlast
    cases hlater : Pass.lastOver? type passes with
    | some later =>
      rw [hlater, Option.some_or, Option.some_inj] at hlast
      subst hlast
      exact h.replaced type later hlater htype
    | none =>
      rw [hlater, Option.none_or, Option.ite_none_right_eq_some, Option.some_inj] at hlast
      obtain ⟨rfl, rfl⟩ := hlast
      refine ⟨values, ?_, hvalues⟩
      rw [h.kept _ (Or.inl (Pass.lastOver?_eq_none_iff.mp hlater))]
      simp [withOverlays, Overlays.replace]
  kept := by
    intro type hother
    have hne : pass.type ≠ type := by
      rintro rfl
      rcases hother with hother | hempty
      · exact hother pass (List.mem_cons_self ..) rfl
      · exact hnodes hempty
    have hlater : (∀ later ∈ passes, later.type ≠ type) ∨ store.nodesOfType type = [] :=
      hother.imp_left fun hother later hlater => hother later (List.mem_cons_of_mem _ hlater)
    rw [h.kept type hlater]
    simp [withOverlays, Overlays.replace, hne]
  generation_eq := by
    have hsome : (store.nodesOfType pass.type).isEmpty = false := by simpa using hnodes
    have hgeneration := h.generation_eq
    have hcount : (passes.countP fun other =>
        !((store.withOverlays pass.type values).nodesOfType other.type).isEmpty) =
          passes.countP fun other => !(store.nodesOfType other.type).isEmpty := rfl
    have hraised : (store.withOverlays pass.type values).generation = store.generation + 1 := rfl
    rw [hgeneration, hcount, hraised, List.countP_cons, hsome]
    simp
    omega

/-- The values that a pass gives are those of the nodes of the type. -/
theorem Consistent.get?_ofList_pairs_iff (h : store.Consistent) (resolver : Resolver)
    (type id : String) (value : Json) :
    (Dict.ofList ((store.nodesOfType type).filterMap resolver.pair?)).get? id = some value ↔
      ∃ node ∈ store.nodesOfType type, node.id = id ∧
        (resolver.resolve node).answer = .ok value := by
  rw [h.get?_ofList_entries]
  simp only [Option.bind_eq_some_iff, h.ofType_get?_eq_some_iff, h.mem_nodesOfType_iff,
    Resolver.value?_eq_some_iff]
  constructor
  · rintro ⟨node, ⟨hlive, htype⟩, hvalue⟩
    obtain rfl := h.id_eq id node hlive
    exact ⟨node, ⟨hlive, htype⟩, rfl, hvalue⟩
  · rintro ⟨node, hnode, rfl, hvalue⟩
    exact ⟨node, hnode, hvalue⟩

/-- A refresh takes the passes before the first failing one into a store in which their types have
been replaced, and goes on from there. -/
theorem Consistent.refresh_append (h : store.Consistent) (scheduling : Scheduling)
    {before : List Pass} (hbefore : ∀ earlier ∈ before, ¬store.Failing earlier) :
    ∃ middle, middle.Consistent ∧ store.Commits before middle ∧ ∀ rest,
      (store.refresh scheduling (before ++ rest)).store = (middle.refresh scheduling rest).store ∧
        (store.refresh scheduling (before ++ rest)).outcome =
          (middle.refresh scheduling rest).outcome := by
  induction before generalizing store with
  | nil => exact ⟨store, h, commits_nil store, fun _ => ⟨rfl, rfl⟩⟩
  | cons pass before ih =>
    rw [List.forall_mem_cons] at hbefore
    by_cases hempty : store.nodesOfType pass.type = []
    · obtain ⟨middle, hmiddle, hcommits, hrest⟩ := ih h hbefore.2
      refine ⟨middle, hmiddle, hcommits.skip hempty, fun rest => ?_⟩
      simpa [refresh, hempty] using hrest rest
    · have hsome : (store.nodesOfType pass.type).isEmpty = false := by simpa using hempty
      have hanswer := pass.resolver.answer_run scheduling (store.nodesOfType pass.type)
      rcases pass.resolver.answer_inSequence_cases (store.nodesOfType pass.type) with
        ⟨-, hok⟩ | ⟨first, failing, later, reason, hsplit, -, hfails, -⟩
      · rw [hok] at hanswer
        obtain ⟨middle, hmiddle, hcommits, hrest⟩ := ih (h.withOverlays pass.type
          (Dict.ofList ((store.nodesOfType pass.type).filterMap pass.resolver.pair?))) hbefore.2
        refine ⟨middle, hmiddle,
          hcommits.cons hempty (h.get?_ofList_pairs_iff pass.resolver pass.type), fun rest => ?_⟩
        simpa [refresh, hsome, hanswer] using hrest rest
      · have hfailing : store.Failing pass :=
          ⟨failing, by simp [hsplit], Resolver.value?_eq_none_of_error hfails⟩
        exact absurd hfailing hbefore.1

/-- A refresh ends at a failing pass, with the failure of the first node that fails in it, and
leaves the store as it is. -/
theorem Consistent.refresh_failing (h : store.Consistent) (scheduling : Scheduling)
    (hfailing : store.Failing pass) (later : List Pass) :
    ∃ node reason, store.FirstFailing pass node reason ∧
      (store.refresh scheduling (pass :: later)).store = store ∧
      (store.refresh scheduling (pass :: later)).outcome =
        .error (.resolverFailed node.id pass.type reason) := by
  obtain ⟨unresolved, hunresolved, hnone⟩ := hfailing
  have hanswer := pass.resolver.answer_run scheduling (store.nodesOfType pass.type)
  rcases pass.resolver.answer_inSequence_cases (store.nodesOfType pass.type) with
    ⟨hall, -⟩ | ⟨first, node, others, reason, hsplit, hfirst, hfails, herror⟩
  · have hresolved := hall unresolved hunresolved
    simp [hnone] at hresolved
  · rw [herror] at hanswer
    have hsome : (store.nodesOfType pass.type).isEmpty = false :=
      List.isEmpty_eq_false_iff_exists_mem.mpr ⟨unresolved, hunresolved⟩
    refine ⟨node, reason, ⟨by simp [hsplit], hfails, ?_⟩, by simp [refresh, hsome, hanswer],
      by simp [refresh, hsome, hanswer]⟩
    intro other hmem hlt
    have hascending := h.pairwise_nodesOfType pass.type
    rw [hsplit, List.mem_append, List.mem_cons] at hmem
    rw [hsplit, List.pairwise_append, List.pairwise_cons] at hascending
    rcases hmem with hmem | rfl | hmem
    · exact hfirst other hmem
    · exact absurd hlt (String.lt_irrefl _)
    · exact absurd hlt (String.lt_asymm (hascending.2.1.1 other hmem))

end Store

namespace Context

/-- In a context whose store has a history, a refresh without failing passes replaces the
overlays of all its types and is counted. Otherwise it replaces those of the types that have their
passes before the first failing one, ends with the failure of the first node that fails in this
one, and is not counted. -/
theorem refresh_commits (history : List Change) (cache : IndexCache) (counters : Counters)
    (settings : Settings) (passes : List Pass) :
    let store := Store.ofHistory history
    let effect := (⟨store, cache, counters, settings⟩ : Context).refresh passes
    ((∀ pass ∈ passes, ¬store.Failing pass) →
      effect.outcome.2 = .ok () ∧ store.Commits passes effect.context.store ∧
        effect.context.counters =
          { counters with resolverRefreshes := counters.resolverRefreshes + 1 }) ∧
    ∀ before pass later, passes = before ++ pass :: later →
      (∀ earlier ∈ before, ¬store.Failing earlier) → store.Failing pass →
      (∃ node reason, store.FirstFailing pass node reason ∧
        effect.outcome.2 = .error (.store (.resolverFailed node.id pass.type reason))) ∧
      store.Commits before effect.context.store ∧
      effect.context.counters = counters := by
  have h := Store.consistent_ofHistory history
  generalize Store.ofHistory history = store at h
  refine ⟨fun hall => ?_, ?_⟩
  · obtain ⟨middle, -, hcommits, hrest⟩ := h.refresh_append settings.scheduling hall
    obtain ⟨hstore, houtcome⟩ := hrest []
    rw [List.append_nil] at hstore houtcome
    have hok : (store.refresh settings.scheduling passes).outcome = .ok () := houtcome
    have hmiddle : (store.refresh settings.scheduling passes).store = middle := hstore
    simp only [refresh, hok, hmiddle]
    exact ⟨trivial, hcommits, rfl⟩
  · rintro before pass later rfl hbefore hfailing
    obtain ⟨middle, hmiddle, hcommits, hrest⟩ := h.refresh_append settings.scheduling hbefore
    obtain ⟨hstore, houtcome⟩ := hrest (pass :: later)
    have hfailing' : middle.Failing pass := by
      simpa only [Store.Failing, hcommits.nodesOfType_eq] using hfailing
    obtain ⟨node, reason, hnode, hkept, herror⟩ :=
      hmiddle.refresh_failing settings.scheduling hfailing' later
    rw [hkept] at hstore
    rw [herror] at houtcome
    have hfirst : store.FirstFailing pass node reason := by
      have hnodes := hcommits.nodesOfType_eq pass.type
      exact ⟨hnodes ▸ hnode.mem, hnode.fails, hnodes ▸ hnode.least⟩
    simp only [refresh, houtcome, hstore]
    exact ⟨⟨node, reason, hfirst, rfl⟩, hcommits, trivial⟩

end Context

end TypedStore
