import Mathlib.Logic.Relation
import TypedStore.Proofs.Store.Resolution
import TypedStore.Store.Refresh

/-!
# Interleavings of a window

While a window is at work, any resolver in it that is suspended may go on next, whether or
not those before it have answered. Values are taken from the front only, and for each one
that is taken the next waiting node is started. Whatever goes on when, the same comes of the
window as of its nodes one after another, and the same nodes have been started.
-/

namespace TypedStore

namespace Flight

theorem work_append (flights others : List Flight) :
    work (flights ++ others) = work flights + work others := by
  simp [work]

/-- Letting one of the suspended flights go on takes one suspension from it and leaves the
others alone. -/
theorem exists_advance_eq {turn : Nat} {flights : List Flight} (h : turn < suspended flights) :
    ∃ before flight after n, flights = before ++ flight :: after ∧ flight.suspensions = n + 1 ∧
      advance turn flights = before ++ { flight with suspensions := n } :: after := by
  induction flights generalizing turn with
  | nil => simp [suspended] at h
  | cons front rest ih =>
    cases hfront : front.suspensions with
    | zero =>
      have hrest : turn < suspended rest := by simpa [suspended, hfront] using h
      obtain ⟨before, flight, after, n, rfl, hn, hadvance⟩ := ih hrest
      exact ⟨front :: before, flight, after, n, rfl, hn, by simp [advance, hfront, hadvance]⟩
    | succ n =>
      cases turn with
      | zero => exact ⟨[], front, rest, n, rfl, hfront, by simp [advance, hfront]⟩
      | succ turn =>
        have hrest : turn < suspended rest := by
          have : turn + 1 < suspended rest + 1 := by simpa [suspended, hfront] using h
          omega
        obtain ⟨before, flight, after, m, rfl, hm, hadvance⟩ := ih hrest
        exact ⟨front :: before, flight, after, m, rfl, hm, by simp [advance, hfront, hadvance]⟩

end Flight

namespace Resolver

variable {resolver : Resolver} {before : List Node}

/-- Nodes that are resolved put their values before the answer of the nodes behind them. -/
theorem answer_inSequence_append (h : ∀ node ∈ before, (resolver.value? node).isSome = true)
    (rest : List Node) :
    (resolver.inSequence (before ++ rest)).answer =
      (resolver.inSequence rest).answer.map (before.filterMap resolver.pair? ++ ·) := by
  induction before with
  | nil =>
    simp only [List.nil_append, List.filterMap_nil]
    cases (resolver.inSequence rest).answer <;> rfl
  | cons node before ih =>
    rw [List.forall_mem_cons] at h
    obtain ⟨value, hvalue⟩ := Option.isSome_iff_exists.mp h.1
    have hpair : resolver.pair? node = some (node.id, value) := by simp [pair?, hvalue]
    rw [List.cons_append, answer_inSequence_of_ok (value?_eq_some_iff.mp hvalue), ih h.2,
      List.filterMap_cons_some hpair]
    cases (resolver.inSequence rest).answer <;> rfl

/-- There is only one first node that fails. -/
theorem first_failing_unique {passed later rest : List Node} {node failing : Node}
    (hbefore : ∀ earlier ∈ before, (resolver.value? earlier).isSome = true)
    (hnode : resolver.value? node = none)
    (hpassed : ∀ earlier ∈ passed, (resolver.value? earlier).isSome = true)
    (hfailing : resolver.value? failing = none)
    (h : before ++ node :: later = passed ++ failing :: rest) :
    before = passed ∧ node = failing := by
  have htake {nodes others : List Node} {last : Node}
      (hnodes : ∀ earlier ∈ nodes, (resolver.value? earlier).isSome = true)
      (hlast : resolver.value? last = none) :
      (nodes ++ last :: others).takeWhile (fun other => (resolver.value? other).isSome) =
        nodes := by
    simp [List.takeWhile_append_of_pos hnodes, hlast]
  obtain rfl : before = passed := by rw [← htake hbefore hnode, h, htake hpassed hfailing]
  exact ⟨rfl, (List.cons.inj (List.append_cancel_left h)).1⟩

end Resolver

/-- A window at work: the resolvers that are under way, the nodes that wait for a place, the
nodes whose resolver was called, and the values that were taken. -/
structure Window where
  flights : List Flight
  waiting : List Node
  called : List Node
  taken : List (String × Json)

/-- What comes of resolving some nodes in a window of a width: the answer that they give one
after another, and a beginning of the nodes as those whose resolver was called. It is as long
as the window reaches behind the first node that fails. -/
structure Resolver.Settles (resolver : Resolver) (width : Nat) (nodes : List Node)
    (resolved : Resolved) : Prop where
  answer_eq : resolved.answer = (resolver.run .sequential nodes).answer
  called_prefix : resolved.called <+: nodes
  called_nodup : nodes.Nodup → resolved.called.Nodup
  of_succeeding : (∀ node ∈ nodes, (resolver.value? node).isSome = true) →
    resolved.answer = .ok (nodes.filterMap resolver.pair?) ∧ resolved.called = nodes
  of_failing : ∀ before node later reason, nodes = before ++ node :: later →
    (∀ earlier ∈ before, (resolver.value? earlier).isSome = true) →
    (resolver.resolve node).answer = .error reason →
    resolved.answer = .error (node, reason) ∧
      resolved.called.length = min nodes.length (before.length + width)

namespace Window

/-- The window in which the first nodes are started and the others wait. -/
def opened (resolver : Resolver) (width : Nat) (nodes : List Node) : Window :=
  ⟨(nodes.take width).map (Flight.start resolver), nodes.drop width, nodes.take width, []⟩

/-- The steps of a window: a suspended flight goes on, or the value of the front one is taken
and its place is given to the next node, if one waits. -/
inductive Step (resolver : Resolver) : Window → Window → Prop
  | resume {before after : List Flight} {flight : Flight} {n : Nat} {waiting called : List Node}
      {taken : List (String × Json)} (suspended : flight.suspensions = n + 1) :
      Step resolver ⟨before ++ flight :: after, waiting, called, taken⟩
        ⟨before ++ { flight with suspensions := n } :: after, waiting, called, taken⟩
  | take {front : Flight} {others : List Flight} {value : Json} {called : List Node}
      {taken : List (String × Json)} (ready : front.suspensions = 0)
      (answered : front.answer = .ok value) :
      Step resolver ⟨front :: others, [], called, taken⟩
        ⟨others, [], called, taken ++ [(front.node.id, value)]⟩
  | refill {front : Flight} {others : List Flight} {value : Json} {next : Node}
      {rest called : List Node} {taken : List (String × Json)} (ready : front.suspensions = 0)
      (answered : front.answer = .ok value) :
      Step resolver ⟨front :: others, next :: rest, called, taken⟩
        ⟨others ++ [Flight.start resolver next], rest, called ++ [next],
          taken ++ [(front.node.id, value)]⟩

/-- What has come of a window, if it is at its end: no flight is left, or the front one has
failed. -/
def result? (window : Window) : Option Resolved :=
  match window.flights with
  | [] => some ⟨window.called, .ok window.taken⟩
  | front :: _ =>
      if front.suspensions = 0 then
        match front.answer with
        | .error reason => some ⟨window.called, .error (front.node, reason)⟩
        | .ok _ => none
      else none

/-- The work that is left in a window and in the nodes that wait. -/
def work (resolver : Resolver) (window : Window) : Nat :=
  Flight.work (window.flights ++ window.waiting.map (Flight.start resolver))

/-- How a window stands that resolves some nodes in order: the values of the passed ones were
taken, the next ones are in flight, and places are free only if no node waits. -/
structure Stands (resolver : Resolver) (width : Nat) (nodes passed : List Node)
    (window : Window) : Prop where
  nodes_eq : nodes = window.called ++ window.waiting
  called_eq : window.called = passed ++ window.flights.map Flight.node
  succeeded : ∀ node ∈ passed, (resolver.value? node).isSome = true
  taken_eq : window.taken = passed.filterMap resolver.pair?
  held : ∀ flight ∈ window.flights, flight.answer = (resolver.resolve flight.node).answer
  length_le : window.flights.length ≤ width
  full : window.waiting ≠ [] → window.flights.length = width

variable {resolver : Resolver} {width : Nat} {nodes passed : List Node} {window next : Window}
  {resolved : Resolved}

/-- A window that was just opened has passed no node. -/
theorem stands_opened (resolver : Resolver) (width : Nat) (nodes : List Node) :
    Stands resolver width nodes [] (opened resolver width nodes) where
  nodes_eq := (List.take_append_drop width nodes).symm
  called_eq := by simp [opened, Flight.start, Function.comp_def]
  succeeded := by simp
  taken_eq := rfl
  held := by
    intro flight hmem
    obtain ⟨node, -, rfl⟩ := List.mem_map.mp hmem
    rfl
  length_le := by
    rw [opened, List.length_map, List.length_take]
    exact Nat.min_le_left ..
  full := by
    intro hwaiting
    have hlength : width < nodes.length := by simpa [opened] using hwaiting
    simp [opened, Nat.min_eq_left (Nat.le_of_lt hlength)]

/-- The front node whose value is taken is resolved, as those before it are, and its value
comes behind theirs. -/
private theorem Stands.passes {front : Flight} {others : List Flight} {value : Json}
    {waiting called : List Node} {taken : List (String × Json)}
    (h : Stands resolver width nodes passed ⟨front :: others, waiting, called, taken⟩)
    (answered : front.answer = .ok value) :
    (∀ node ∈ passed ++ [front.node], (resolver.value? node).isSome = true) ∧
      taken ++ [(front.node.id, value)] = (passed ++ [front.node]).filterMap resolver.pair? := by
  have hvalue : resolver.value? front.node = some value :=
    Resolver.value?_eq_some_iff.mpr ((h.held front (List.mem_cons_self ..)).symm.trans answered)
  have htaken : taken = passed.filterMap resolver.pair? := h.taken_eq
  constructor
  · intro node hmem
    rcases List.mem_append.mp hmem with hmem | hmem
    · exact h.succeeded node hmem
    · obtain rfl := List.mem_singleton.mp hmem
      simp [hvalue]
  · rw [List.filterMap_append, ← htaken]
    simp [Resolver.pair?, hvalue]

/-- Every step leaves a window standing in the same way, with one more node passed if a value
was taken. -/
theorem Stands.step (h : Stands resolver width nodes passed window)
    (step : Step resolver window next) : ∃ passed, Stands resolver width nodes passed next := by
  cases step with
  | @resume before after flight n waiting called taken suspended =>
    refine ⟨passed, h.nodes_eq, ?_, h.succeeded, h.taken_eq, ?_, ?_, ?_⟩
    · simpa using h.called_eq
    · intro other hmem
      have hheld := h.held flight (by simp)
      rcases List.mem_append.mp hmem with hmem | hmem
      · exact h.held other (by simp [hmem])
      · rcases List.mem_cons.mp hmem with rfl | hmem
        · exact hheld
        · exact h.held other (by simp [hmem])
    · simpa using h.length_le
    · simpa using h.full
  | @take front others value called taken ready answered =>
    obtain ⟨hsucceeded, htaken⟩ := h.passes answered
    refine ⟨passed ++ [front.node], h.nodes_eq, ?_, hsucceeded, htaken, ?_, ?_, by simp⟩
    · simpa using h.called_eq
    · exact fun flight hmem => h.held flight (List.mem_cons_of_mem _ hmem)
    · exact Nat.le_of_succ_le h.length_le
  | @refill front others value next rest called taken ready answered =>
    obtain ⟨hsucceeded, htaken⟩ := h.passes answered
    have hfull : (front :: others).length = width := h.full (List.cons_ne_nil _ _)
    have hlength : (others ++ [Flight.start resolver next]).length = width := by
      simpa using hfull
    refine ⟨passed ++ [front.node], ?_, ?_, hsucceeded, htaken, ?_, Nat.le_of_eq hlength,
      fun _ => hlength⟩
    · simpa using h.nodes_eq
    · have hcalled : called = passed ++ (front :: others).map Flight.node := h.called_eq
      simp [hcalled, Flight.start]
    · intro flight hmem
      rcases List.mem_append.mp hmem with hmem | hmem
      · exact h.held flight (List.mem_cons_of_mem _ hmem)
      · obtain rfl := List.mem_singleton.mp hmem
        rfl

/-- However a window is reached from the opened one, it stands in this way. -/
theorem exists_stands_of_reaches
    (reaches : Relation.ReflTransGen (Step resolver) (opened resolver width nodes) window) :
    ∃ passed, Stands resolver width nodes passed window := by
  induction reaches with
  | refl => exact ⟨[], stands_opened resolver width nodes⟩
  | tail _ step ih =>
    obtain ⟨passed, h⟩ := ih
    exact h.step step

/-- At its end, a window that stands in this way has settled its nodes. -/
theorem Stands.settles (h : Stands resolver width nodes passed window) (hwidth : 0 < width)
    (hresult : window.result? = some resolved) : resolver.Settles width nodes resolved := by
  obtain ⟨flights, waiting, called, taken⟩ := window
  have hnodes : nodes = called ++ waiting := h.nodes_eq
  have hcalled : called = passed ++ flights.map Flight.node := h.called_eq
  have hnodup (hdistinct : nodes.Nodup) : called.Nodup :=
    (List.nodup_append.mp (hnodes ▸ hdistinct)).1
  cases flights with
  | nil =>
    -- No place is taken, so no node waits, and all of them have been passed.
    have hwaiting : waiting = [] := by
      cases waiting with
      | nil => rfl
      | cons next rest =>
        have hfull : 0 = width := h.full (List.cons_ne_nil _ _)
        omega
    obtain rfl := Option.some.inj hresult
    obtain rfl : nodes = passed := by simp [hnodes, hcalled, hwaiting]
    have htaken : taken = nodes.filterMap resolver.pair? := h.taken_eq
    have hanswer : (resolver.inSequence nodes).answer = .ok (nodes.filterMap resolver.pair?) := by
      have hall := Resolver.answer_inSequence_append h.succeeded []
      simpa [Resolver.inSequence, Except.map] using hall
    refine ⟨?_, ⟨waiting, hnodes.symm⟩, hnodup, fun _ => ?_, ?_⟩
    · rw [htaken]
      exact hanswer.symm
    · simp [htaken, hcalled]
    · rintro before node later reason rfl _ hfails
      have hsome := h.succeeded node (by simp)
      simp [Resolver.value?_eq_none_of_error hfails] at hsome
  | cons front others =>
    simp only [result?] at hresult
    split at hresult
    · split at hresult
      · rename_i reason hfailed
        obtain rfl := Option.some.inj hresult
        have hfront : (resolver.resolve front.node).answer = .error reason :=
          (h.held front (List.mem_cons_self ..)).symm.trans hfailed
        have hsplit : nodes = passed ++ front.node :: (others.map Flight.node ++ waiting) := by
          simp [hnodes, hcalled]
        have hlength : called.length = min nodes.length (passed.length + width) := by
          have hplaces : (front :: others).length ≤ width := h.length_le
          have hfull : waiting ≠ [] → (front :: others).length = width := h.full
          rw [hnodes, hcalled]
          simp only [List.length_append, List.length_map]
          cases waiting with
          | nil => simp only [List.length_nil]; omega
          | cons next rest =>
            have := hfull (List.cons_ne_nil _ _)
            omega
        have hanswer : (resolver.inSequence nodes).answer = .error (front.node, reason) := by
          rw [hsplit, Resolver.answer_inSequence_append h.succeeded,
            Resolver.answer_inSequence_of_error hfront]
          rfl
        refine ⟨hanswer.symm, ⟨waiting, hnodes.symm⟩, hnodup, fun hall => ?_, ?_⟩
        · have hsome := hall front.node (by simp [hsplit])
          simp [Resolver.value?_eq_none_of_error hfront] at hsome
        · intro before node later cause hother hbefore hfails
          obtain ⟨rfl, rfl⟩ := Resolver.first_failing_unique hbefore
            (Resolver.value?_eq_none_of_error hfails) h.succeeded
            (Resolver.value?_eq_none_of_error hfront) (hother.symm.trans hsplit)
          obtain rfl := Except.error.inj (hfails.symm.trans hfront)
          exact ⟨rfl, hlength⟩
      · contradiction
    · contradiction

/-- A window that is not at its end can go on. -/
theorem exists_step (h : window.result? = none) : ∃ next, Step resolver window next := by
  obtain ⟨flights, waiting, called, taken⟩ := window
  cases flights with
  | nil => simp [result?] at h
  | cons front others =>
    cases hfront : front.suspensions with
    | succ n => exact ⟨_, @Step.resume resolver [] others front n waiting called taken hfront⟩
    | zero =>
      cases hanswer : front.answer with
      | error reason => simp [result?, hfront, hanswer] at h
      | ok value =>
        cases waiting with
        | nil => exact ⟨_, .take hfront hanswer⟩
        | cons next rest => exact ⟨_, .refill hfront hanswer⟩

/-- Every step takes some work from a window, so it comes to an end. -/
theorem work_lt_of_step (step : Step resolver window next) :
    next.work resolver < window.work resolver := by
  cases step with
  | resume suspended =>
    simp only [work, Flight.work_append]
    simp [Flight.work, suspended]
  | take ready answered =>
    simp [work, Flight.work]
  | refill ready answered =>
    simp only [work, Flight.work_append]
    simp [Flight.work]
    omega

/-- Going on with a window by turns reaches an end of it by its steps. -/
theorem exists_reaches_inWindow (resolver : Resolver) (turn : Nat) (flights : List Flight)
    (waiting called : List Node) (taken : List (String × Json)) :
    ∃ window, Relation.ReflTransGen (Step resolver) ⟨flights, waiting, called, taken⟩ window ∧
      window.result? = some
        ⟨called ++ (resolver.inWindow turn flights waiting).called,
          (resolver.inWindow turn flights waiting).answer.map (taken ++ ·)⟩ := by
  fun_induction resolver.inWindow turn flights waiting generalizing called taken with
  | case1 turn waiting => exact ⟨_, .refl, by simp [result?, Except.map]⟩
  | case2 turn waiting front others ready reason failed =>
    exact ⟨_, .refl, by simp [result?, ready, failed, Except.map]⟩
  | case3 turn front others ready value answered ih =>
    obtain ⟨window, reaches, hresult⟩ := ih called (taken ++ [(front.node.id, value)])
    refine ⟨window, .head (.take ready answered) reaches, hresult.trans ?_⟩
    simp only [Resolved.cons]
    cases (resolver.inWindow turn others []).answer <;> simp [Except.map]
  | case4 turn front others ready value answered next rest ih =>
    obtain ⟨window, reaches, hresult⟩ := ih (called ++ [next]) (taken ++ [(front.node.id, value)])
    refine ⟨window, .head (.refill ready answered) reaches, hresult.trans ?_⟩
    simp only [Resolved.cons, Resolved.calling]
    cases (resolver.inWindow turn (others ++ [Flight.start resolver next]) rest).answer <;>
      simp [Except.map]
  | case5 turn waiting front others suspended chosen ih =>
    have hsome : 0 < Flight.suspended (front :: others) := by simp [Flight.suspended, suspended]
    obtain ⟨before, flight, after, n, hflights, hn, hadvance⟩ :=
      Flight.exists_advance_eq (Nat.mod_lt (resolver.turn turn) hsome)
    obtain ⟨window, reaches, hresult⟩ := ih called taken
    refine ⟨window, .head ?_ reaches, hresult⟩
    rw [show chosen = resolver.turn turn % Flight.suspended (front :: others) from rfl, hadvance,
      hflights]
    exact .resume hn

end Window

namespace Store

/-- A refresh in a window leaves the same store and has the same outcome as one in which the
nodes of a type are resolved one after another. -/
theorem refresh_bounded (store : Store) (limit : Nat) (passes : List Pass) :
    (store.refresh (.bounded limit) passes).store = (store.refresh .sequential passes).store ∧
      (store.refresh (.bounded limit) passes).outcome =
        (store.refresh .sequential passes).outcome := by
  induction passes generalizing store with
  | nil => exact ⟨rfl, rfl⟩
  | cons pass rest ih =>
    simp only [refresh, Resolver.answer_run]
    split
    · exact ih store
    · split
      · exact ⟨rfl, rfl⟩
      · exact ih _

end Store

namespace Resolver

/-- Whatever the turns and the suspensions are, the nodes of a type settle in a window, with
the answer that they give one after another. The same holds of every order in which the
flights of the window may go on: it can go on until it is at an end, it comes to one, and at
every end the nodes have settled. So a refresh in a window leaves the same store and fails in
the same way as one without. -/
theorem settles_bounded (resolver : Resolver) (limit : Nat) (nodes : List Node) :
    resolver.Settles (max limit 1) nodes (resolver.run (.bounded limit) nodes) ∧
      (∀ window, Relation.ReflTransGen (Window.Step resolver)
          (Window.opened resolver (max limit 1) nodes) window →
        (window.result? = none → ∃ next, Window.Step resolver window next) ∧
        (∀ next, Window.Step resolver window next → next.work resolver < window.work resolver) ∧
        ∀ resolved, window.result? = some resolved →
          resolver.Settles (max limit 1) nodes resolved) ∧
      ∀ (store : Store) (passes : List Pass),
        (store.refresh (.bounded limit) passes).store = (store.refresh .sequential passes).store ∧
          (store.refresh (.bounded limit) passes).outcome =
            (store.refresh .sequential passes).outcome := by
  have hwidth : 0 < max limit 1 := by omega
  have hends {window : Window} (reaches : Relation.ReflTransGen (Window.Step resolver)
      (Window.opened resolver (max limit 1) nodes) window) {resolved : Resolved}
      (hresult : window.result? = some resolved) :
      resolver.Settles (max limit 1) nodes resolved := by
    obtain ⟨passed, h⟩ := Window.exists_stands_of_reaches reaches
    exact h.settles hwidth hresult
  refine ⟨?_, fun window reaches => ⟨Window.exists_step, fun next => Window.work_lt_of_step,
    fun resolved => hends reaches⟩, fun store => store.refresh_bounded limit⟩
  obtain ⟨window, reaches, hresult⟩ := Window.exists_reaches_inWindow resolver 0
    ((nodes.take (max limit 1)).map (Flight.start resolver)) (nodes.drop (max limit 1))
    (nodes.take (max limit 1)) []
  have hanswer (answer : Except (Node × String) (List (String × Json))) :
      answer.map ([] ++ ·) = answer := by cases answer <;> rfl
  rw [hanswer] at hresult
  exact hends reaches hresult

end Resolver

end TypedStore
