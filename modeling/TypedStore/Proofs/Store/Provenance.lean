import TypedStore.Proofs.Store.Resolution
import TypedStore.Proofs.Store.Views

/-!
# Where overlays come from

A refresh passes over its types one after another. The overlay of a node is the value that
the resolver gave for its id in the last pass over its type that went through; a node whose
id was not there in that pass or has been deleted since has none. So no overlay outlives its
node, and a node that is added anew starts without one.
-/

namespace TypedStore

namespace Resolver

variable {resolver : Resolver}

theorem pair?_eq_some_iff {node : Node} {id : String} {value : Json} :
    resolver.pair? node = some (id, value) ↔
      resolver.value? node = some value ∧ node.id = id := by
  simp [pair?, Option.map_eq_some_iff, and_comm]

end Resolver

namespace Pass

/-- The last one of some passes that is over a type. -/
def lastOver? (type : String) (passes : List Pass) : Option Pass :=
  (passes.filter fun pass => pass.type = type).getLast?

variable {type : String} {pass : Pass}

/-- The last pass over a type is among the later ones, or else it may be the first one. -/
theorem lastOver?_cons (type : String) (pass : Pass) (rest : List Pass) :
    lastOver? type (pass :: rest) =
      (lastOver? type rest).or (if pass.type = type then some pass else none) := by
  unfold lastOver?
  by_cases h : pass.type = type
  · rw [List.filter_cons_of_pos (by simpa using h), List.getLast?_cons, if_pos h]
    cases (rest.filter fun pass => pass.type = type).getLast? <;> rfl
  · rw [List.filter_cons_of_neg (by simpa using h), if_neg h, Option.or_none]

/-- There is a last pass over a type unless no pass is over it. -/
theorem lastOver?_eq_none_iff {passes : List Pass} :
    lastOver? type passes = none ↔ ∀ pass ∈ passes, pass.type ≠ type := by
  simp [lastOver?]

end Pass

namespace Store

/-- The passes of a refresh that go through: those over types without nodes are skipped, and the
first one in which a node fails ends the refresh. -/
def completed (store : Store) (passes : List Pass) : List Pass :=
  (passes.filter fun pass => !(store.nodesOfType pass.type).isEmpty).takeWhile fun pass =>
    (store.nodesOfType pass.type).all fun node => (pass.resolver.value? node).isSome

/-- A change gives a value to a type and an id: it is a refresh that passes over the type, and in
the last such pass the resolver gives the value for the node of the type that has the id. -/
def Provides (store : Store) (type id : String) (value : Json) : Change → Prop
  | .refresh _ passes => ∃ pass, Pass.lastOver? type (store.completed passes) = some pass ∧
      ∃ node, store.get? id = some node ∧ node.type = type ∧
        (pass.resolver.resolve node).answer = .ok value
  | _ => False

/-- After a change, a value that was given to a type and an id before does not count: the
change deletes the id or is another refresh that passes over the type. -/
def Supersedes (store : Store) (type id : String) : Change → Prop
  | .add .. => False
  | .delete other => other = id
  | .refresh _ passes => ∃ pass ∈ store.completed passes, pass.type = type

/-- Overlays are kept only for nodes that are there with their types. -/
def OverlaysLive (store : Store) : Prop :=
  ∀ type id value, store.overlays.get? type id = some value →
    ∃ node, store.get? id = some node ∧ node.type = type

variable {store : Store} {type id : String} {value : Json} {c : Change} {pass : Pass}

/-- The values that a pass gives for the nodes of a type are found by their ids. -/
theorem Consistent.get?_ofList_entries (h : store.Consistent) (resolver : Resolver)
    (type id : String) :
    (Dict.ofList ((store.nodesOfType type).filterMap resolver.pair?)).get? id =
      ((store.ofType type).get? id).bind resolver.value? := by
  have hnodup : (((store.nodesOfType type).filterMap resolver.pair?).map Prod.fst).Nodup := by
    rw [List.nodup_iff_pairwise_ne, List.pairwise_map, List.pairwise_filterMap]
    refine (h.pairwise_nodesOfType type).imp fun {a b} hlt => ?_
    rintro ⟨_, _⟩ ha ⟨_, _⟩ hb rfl
    obtain ⟨-, rfl⟩ := Resolver.pair?_eq_some_iff.mp ha
    obtain ⟨-, hid⟩ := Resolver.pair?_eq_some_iff.mp hb
    exact String.lt_irrefl _ (hid ▸ hlt)
  ext value
  simp only [Dict.get?_ofList_eq_some_iff hnodup, List.mem_filterMap, Option.bind_eq_some_iff,
    h.mem_nodesOfType_iff, h.ofType_get?_eq_some_iff, Resolver.pair?_eq_some_iff]
  constructor
  · rintro ⟨node, hnode, hvalue, rfl⟩
    exact ⟨node, hnode, hvalue⟩
  · rintro ⟨node, ⟨hlive, htype⟩, hvalue⟩
    obtain rfl := h.id_eq id node hlive
    exact ⟨node, ⟨hlive, htype⟩, hvalue, rfl⟩

/-- A pass over a type without nodes is skipped. -/
theorem completed_cons_of_isEmpty (h : (store.nodesOfType pass.type).isEmpty = true)
    (rest : List Pass) : store.completed (pass :: rest) = store.completed rest := by
  simp [completed, h]

/-- A pass in which all nodes are resolved goes through. -/
theorem completed_cons_of_forall (hnodes : (store.nodesOfType pass.type).isEmpty = false)
    (hall : ∀ node ∈ store.nodesOfType pass.type, (pass.resolver.value? node).isSome = true)
    (rest : List Pass) : store.completed (pass :: rest) = pass :: store.completed rest := by
  simp [completed, hnodes, List.all_eq_true.mpr hall]

/-- A pass in which a node fails ends the refresh. -/
theorem completed_cons_of_failing {node : Node} (hmem : node ∈ store.nodesOfType pass.type)
    (hfails : pass.resolver.value? node = none) (rest : List Pass) :
    store.completed (pass :: rest) = [] := by
  have hnodes : (store.nodesOfType pass.type).isEmpty = false :=
    List.isEmpty_eq_false_iff_exists_mem.mpr ⟨node, hmem⟩
  have hall : ((store.nodesOfType pass.type).all fun node =>
      (pass.resolver.value? node).isSome) = false :=
    List.all_eq_false.mpr ⟨node, hmem, by simp [hfails]⟩
  simp [completed, hnodes, hall]

@[simp] theorem completed_withOverlays (store : Store) (type : String) (values : Dict Json)
    (passes : List Pass) :
    (store.withOverlays type values).completed passes = store.completed passes := rfl

@[simp] theorem ofType_withOverlays (store : Store) (type other : String) (values : Dict Json) :
    (store.withOverlays type values).ofType other = store.ofType other := rfl

@[simp] theorem get?_overlays_withOverlays (store : Store) (type other id : String)
    (values : Dict Json) :
    (store.withOverlays type values).overlays.get? other id =
      if type = other then values.get? id else store.overlays.get? other id :=
  Overlays.get?_replace ..

/-- A refresh replaces the overlays of the types that it passes over by the values that the
resolver gives for their nodes in the last pass, and keeps all others. -/
theorem Consistent.get?_overlays_refresh (h : store.Consistent) (scheduling : Scheduling)
    (passes : List Pass) (type id : String) :
    (store.refresh scheduling passes).store.overlays.get? type id =
      match Pass.lastOver? type (store.completed passes) with
      | some pass => ((store.ofType type).get? id).bind pass.resolver.value?
      | none => store.overlays.get? type id := by
  induction passes generalizing store with
  | nil => rfl
  | cons pass rest ih =>
    by_cases hempty : (store.nodesOfType pass.type).isEmpty = true
    · simp only [refresh, hempty, if_true]
      rw [ih h, completed_cons_of_isEmpty hempty]
    · have hnodes : (store.nodesOfType pass.type).isEmpty = false := Bool.eq_false_iff.mpr hempty
      have hanswer := pass.resolver.answer_run scheduling (store.nodesOfType pass.type)
      rcases pass.resolver.answer_inSequence_cases (store.nodesOfType pass.type) with
        ⟨hall, hok⟩ | ⟨before, failing, later, reason, hsplit, -, hfails, herror⟩
      · rw [hok] at hanswer
        simp only [refresh, hnodes, hanswer, Bool.false_eq_true, if_false]
        rw [ih (h.withOverlays _ _), completed_cons_of_forall hnodes hall, Pass.lastOver?_cons,
          completed_withOverlays]
        -- Later passes over the type count before this one.
        cases hlater : Pass.lastOver? type (store.completed rest) with
        | some later => rfl
        | none =>
          by_cases hfirst : pass.type = type
          · subst hfirst
            simp [h.get?_ofList_entries]
          · simp [hfirst]
      · have hmem : failing ∈ store.nodesOfType pass.type := by simp [hsplit]
        have hvalue := Resolver.value?_eq_none_of_error hfails
        rw [herror] at hanswer
        simp only [refresh, hnodes, hanswer, Bool.false_eq_true, if_false,
          completed_cons_of_failing hmem hvalue]
        rfl

/-- A deletion drops the overlays for its id. -/
theorem OverlaysLive.get?_overlays_delete (hlive : store.OverlaysLive) (id type key : String) :
    (store.change (.delete id)).overlays.get? type key =
      if id = key then none else store.overlays.get? type key := by
  cases hnode : store.get? id with
  | none =>
    have hnone : store.overlays.get? type id = none := by
      rw [Option.eq_none_iff_forall_ne_some]
      intro value hvalue
      obtain ⟨node, hfound, -⟩ := hlive type id value hvalue
      simp [hnode] at hfound
    have hsame := store.countsWrites.delete_of_absent id hnode
    by_cases hkey : id = key
    · subst hkey
      simp [change, hsame, hnone]
    · simp [change, hsame, hkey]
  | some node =>
    have hremove : store.change (.delete id) = store.remove node.type id := by
      rw [get?] at hnode
      simp [change, delete, hnode]
    have hdropped : (store.remove node.type id).overlays.get? type key =
        if node.type = type ∧ id = key then none else store.overlays.get? type key :=
      Overlays.get?_forget ..
    rw [hremove, hdropped]
    by_cases hkey : id = key
    · subst hkey
      by_cases htype : node.type = type
      · simp [htype]
      · -- The overlays of other types have nothing for the id.
        have hnone : store.overlays.get? type id = none := by
          rw [Option.eq_none_iff_forall_ne_some]
          intro value hvalue
          obtain ⟨found, hfound, rfl⟩ := hlive type id value hvalue
          exact htype (congrArg Node.type (Option.some.inj (hnode.symm.trans hfound)))
        simp [hnone]
    · simp [hkey]

/-- The overlay for a type and an id after a change was given by it, or was there and is not
superseded. -/
theorem get?_overlays_change_eq_some_iff (h : store.Consistent) (hlive : store.OverlaysLive) :
    (store.change c).overlays.get? type id = some value ↔
      store.Provides type id value c ∨
        store.overlays.get? type id = some value ∧ ¬store.Supersedes type id c := by
  cases c with
  | add node made =>
    have hsame : (store.change (.add node made)).overlays = store.overlays := by
      rcases store.change_add_eq made with ⟨hput, -⟩ | hsame
      · rw [hput]
        rfl
      · rw [hsame]
    simp [hsame, Provides, Supersedes]
  | delete other =>
    rw [hlive.get?_overlays_delete]
    by_cases hid : other = id <;> simp [Provides, Supersedes, hid]
  | refresh scheduling passes =>
    have hsupersedes : store.Supersedes type id (.refresh scheduling passes) ↔
        Pass.lastOver? type (store.completed passes) ≠ none := by
      simp [Supersedes, Pass.lastOver?_eq_none_iff]
    rw [change, h.get?_overlays_refresh, hsupersedes]
    cases hlast : Pass.lastOver? type (store.completed passes) with
    | none => simp [Provides, hlast]
    | some pass =>
      simp [Provides, hlast, Option.bind_eq_some_iff, h.ofType_get?_eq_some_iff,
        Resolver.value?_eq_some_iff, and_assoc]

/-- A node that is there stays there with its type, unless it is deleted. -/
theorem exists_get?_change {node : Node} (hnode : store.get? id = some node)
    (hkept : c ≠ .delete id) :
    ∃ found, (store.change c).get? id = some found ∧ found.type = node.type := by
  cases c with
  | add other made =>
    rcases store.change_add_eq made with ⟨hput, hsame⟩ | hsame
    · rw [hput, get?_put]
      split
      · rename_i hid
        exact ⟨other, rfl, (hsame node (hid ▸ hnode)).symm⟩
      · exact ⟨node, hnode, rfl⟩
    · rw [hsame]
      exact ⟨node, hnode, rfl⟩
  | delete other =>
    have hne : other ≠ id := fun h => hkept (h ▸ rfl)
    rw [get?_change_delete, if_neg hne]
    exact ⟨node, hnode, rfl⟩
  | refresh scheduling passes =>
    refine ⟨node, ?_, rfl⟩
    rw [get?] at hnode
    simp [change, get?, refresh_nodes, hnode]

/-- Every change keeps overlays only for nodes that are there with their types. -/
theorem OverlaysLive.change (hlive : store.OverlaysLive) (h : store.Consistent) (c : Change) :
    (store.change c).OverlaysLive := by
  intro type id value hvalue
  rw [get?_overlays_change_eq_some_iff h hlive] at hvalue
  rcases hvalue with hprovides | ⟨hvalue, hkept⟩
  · cases c with
    | add | delete => exact hprovides.elim
    | refresh scheduling passes =>
      obtain ⟨pass, -, node, hnode, rfl, -⟩ := hprovides
      exact exists_get?_change hnode (by simp)
  · obtain ⟨node, hnode, rfl⟩ := hlive type id value hvalue
    exact exists_get?_change hnode fun hdelete => hkept (hdelete ▸ rfl)

/-- After any history, overlays are kept only for nodes that are there with their types. -/
theorem overlaysLive_ofHistory (history : List Change) : (ofHistory history).OverlaysLive := by
  induction history using List.reverseRecOn with
  | nil => simp [OverlaysLive, ofHistory, empty]
  | append_singleton history c ih =>
    rw [ofHistory_append_singleton]
    exact ih.change (consistent_ofHistory history) c

/-- After any history, the overlay for a type and an id is what was last given to them and
has not been superseded since. -/
theorem get?_overlays_ofHistory_eq_some_iff (history : List Change) :
    (ofHistory history).overlays.get? type id = some value ↔
      Since (fun store c => store.Provides type id value c)
        (fun store c => store.Supersedes type id c) history := by
  induction history using List.reverseRecOn with
  | nil => simp [not_since_nil, ofHistory, empty]
  | append_singleton history c ih =>
    rw [ofHistory_append_singleton, since_append_singleton_iff, ← ih]
    exact get?_overlays_change_eq_some_iff (consistent_ofHistory history)
      (overlaysLive_ofHistory history)

/-- After any history, every way to read a node of the store shows it with one overlay, the
value that the resolver gave for its id in the last pass over its type, if the id was there
then and has not been deleted since, and none otherwise. So no overlay is kept for an id that
is not there with the type, and what an id has that was deleted was given to it later. -/
theorem ofHistory_overlays (history : List Change) :
    (∀ node, (ofHistory history).get? node.id = some node →
      (∀ value, ((ofHistory history).stamp node).overlay = some value ↔
        Since (fun store c => store.Provides node.type node.id value c)
          (fun store c => store.Supersedes node.type node.id c) history) ∧
      (ofHistory history).stampedOfType? node.type node.id =
        some ((ofHistory history).stamp node) ∧
      (∀ stamped, stamped ∈ (ofHistory history).stampedOfType node.type ∧ stamped.id = node.id ↔
        stamped = (ofHistory history).stamp node) ∧
      ∀ types, node.type ∈ types →
        (ofHistory history).findAmong? node.id types = some ((ofHistory history).stamp node)) ∧
    (ofHistory history).OverlaysLive ∧
    ∀ before id later type value, history = before ++ .delete id :: later →
      (ofHistory history).overlays.get? type id = some value →
      ∃ between next rest, later = between ++ next :: rest ∧
        (ofHistory (before ++ .delete id :: between)).Provides type id value next := by
  have consistent := consistent_ofHistory history
  refine ⟨?_, overlaysLive_ofHistory history, ?_⟩
  · intro node hnode
    refine ⟨fun value => get?_overlays_ofHistory_eq_some_iff history, ?_, ?_, ?_⟩
    · exact consistent.stampedOfType?_eq_some_iff.mpr ⟨node, hnode, rfl, rfl⟩
    · intro stamped
      rw [consistent.mem_stampedOfType_iff]
      constructor
      · rintro ⟨⟨other, hother, -, rfl⟩, hid⟩
        have hid : other.id = node.id := hid
        rw [hid] at hother
        rw [Option.some.inj (hother.symm.trans hnode)]
      · rintro rfl
        exact ⟨⟨node, hnode, rfl, rfl⟩, rfl⟩
    · intro types htype
      exact findAmong?_eq_some_iff.mpr ⟨node, hnode, htype, rfl⟩
  · rintro before id later type value rfl hvalue
    exact ((get?_overlays_ofHistory_eq_some_iff _).mp hvalue).later rfl fun hprovides => hprovides

end Store

end TypedStore
