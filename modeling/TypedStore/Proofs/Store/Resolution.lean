import TypedStore.Store.Window

/-!
# What resolvers answer

However resolvers are scheduled, the answer is the one that is got by resolving the nodes
one after another: the values of all nodes, or the first node that fails.
-/

namespace TypedStore

/-- The node of a flight, and the answer that it holds. -/
def Flight.content (flight : Flight) : Node × Except String Json := (flight.node, flight.answer)

namespace Resolver

/-- The value that a resolver gives for a node, unless it fails. -/
def value? (resolver : Resolver) (node : Node) : Option Json :=
  (resolver.resolve node).answer.toOption

/-- The value for a node with the id that it is kept under. -/
def pair? (resolver : Resolver) (node : Node) : Option (String × Json) :=
  (resolver.value? node).map fun value => (node.id, value)

variable {resolver : Resolver} {node : Node} {nodes : List Node}

theorem value?_eq_some_iff {value : Json} :
    resolver.value? node = some value ↔ (resolver.resolve node).answer = .ok value := by
  unfold value?
  cases (resolver.resolve node).answer <;> simp [Except.toOption]

theorem value?_eq_none_of_error {reason : String}
    (h : (resolver.resolve node).answer = .error reason) : resolver.value? node = none := by
  simp [value?, h, Except.toOption]

/-- A node that fails ends the resolving. -/
theorem answer_inSequence_of_error {reason : String}
    (h : (resolver.resolve node).answer = .error reason) (rest : List Node) :
    (resolver.inSequence (node :: rest)).answer = .error (node, reason) := by
  simp only [inSequence, h]

/-- The value of a node comes before those of the nodes behind it. -/
theorem answer_inSequence_of_ok {value : Json}
    (h : (resolver.resolve node).answer = .ok value) (rest : List Node) :
    (resolver.inSequence (node :: rest)).answer =
      (resolver.inSequence rest).answer.map ((node.id, value) :: ·) := by
  simp only [inSequence, h, Resolved.cons, Resolved.calling]

/-- Resolving nodes one after another gives all their values, or ends at the first node that
fails. -/
theorem answer_inSequence_cases (resolver : Resolver) (nodes : List Node) :
    (∀ node ∈ nodes, (resolver.value? node).isSome = true) ∧
        (resolver.inSequence nodes).answer = .ok (nodes.filterMap resolver.pair?) ∨
      ∃ before node later reason, nodes = before ++ node :: later ∧
        (∀ earlier ∈ before, (resolver.value? earlier).isSome = true) ∧
        (resolver.resolve node).answer = .error reason ∧
        (resolver.inSequence nodes).answer = .error (node, reason) := by
  induction nodes with
  | nil => exact Or.inl ⟨by simp, rfl⟩
  | cons node rest ih =>
    cases hanswer : (resolver.resolve node).answer with
    | error reason =>
      exact Or.inr ⟨[], node, rest, reason, rfl, by simp, hanswer,
        answer_inSequence_of_error hanswer rest⟩
    | ok value =>
      have hvalue : resolver.value? node = some value := value?_eq_some_iff.mpr hanswer
      have hcons := answer_inSequence_of_ok hanswer rest
      rcases ih with ⟨hall, hok⟩ | ⟨before, failing, later, reason, rfl, hbefore, hfails, herror⟩
      · have hentry : resolver.pair? node = some (node.id, value) := by simp [pair?, hvalue]
        refine Or.inl ⟨by simpa [hvalue] using hall, ?_⟩
        rw [hcons, hok, List.filterMap_cons_some hentry]
        rfl
      · refine Or.inr ⟨node :: before, failing, later, reason, rfl, ?_, hfails, ?_⟩
        · simpa [hvalue] using hbefore
        · rw [hcons, herror]
          rfl

/-- Letting a flight go on changes neither its node nor its answer. -/
theorem content_advance (turn : Nat) (flights : List Flight) :
    (Flight.advance turn flights).map Flight.content = flights.map Flight.content := by
  induction flights generalizing turn with
  | nil => rfl
  | cons flight rest ih =>
    unfold Flight.advance
    split
    · rw [List.map_cons, List.map_cons, ih]
    · split
      · rfl
      · rw [List.map_cons, List.map_cons, ih]

/-- Whichever flights go on, a window answers as its nodes and the waiting ones do one after
another, if its flights hold what the resolver answers and no node waits beside an empty
window. -/
theorem answer_inWindow (step : Nat) (flights : List Flight) (waiting : List Node)
    (hheld : ∀ content ∈ flights.map Flight.content,
      content.2 = (resolver.resolve content.1).answer)
    (hplaces : flights = [] → waiting = []) :
    (resolver.inWindow step flights waiting).answer =
      (resolver.inSequence ((flights.map Flight.content).map Prod.fst ++ waiting)).answer := by
  fun_induction resolver.inWindow step flights waiting with
  | case1 step waiting =>
    rw [hplaces rfl]
    rfl
  | case2 step waiting front others _ reason hanswer =>
    have hfront : (resolver.resolve front.node).answer = .error reason :=
      (hheld _ (List.mem_cons_self ..)).symm.trans hanswer
    exact (answer_inSequence_of_error hfront _).symm
  | case3 step front others _ value hanswer ih =>
    have hfront : (resolver.resolve front.node).answer = .ok value :=
      (hheld _ (List.mem_cons_self ..)).symm.trans hanswer
    have hothers := ih (fun content hmem => hheld content (List.mem_cons_of_mem _ hmem)) (by simp)
    exact (congrArg _ hothers).trans (answer_inSequence_of_ok hfront _).symm
  | case4 step front others _ value hanswer next rest ih =>
    have hfront : (resolver.resolve front.node).answer = .ok value :=
      (hheld _ (List.mem_cons_self ..)).symm.trans hanswer
    have hothers := ih (by
      intro content hmem
      rw [List.map_append, List.mem_append] at hmem
      rcases hmem with hmem | hmem
      · exact hheld content (List.mem_cons_of_mem _ hmem)
      · obtain rfl := List.mem_singleton.mp hmem
        rfl) (by simp)
    have hnodes :
        ((others ++ [Flight.start resolver next]).map Flight.content).map Prod.fst ++ rest =
          (others.map Flight.content).map Prod.fst ++ next :: rest := by
      simp [Flight.content, Flight.start]
    rw [hnodes] at hothers
    exact (congrArg _ hothers).trans (answer_inSequence_of_ok hfront _).symm
  | case5 step waiting front others _ turn ih =>
    rw [content_advance] at ih
    refine ih hheld fun hempty => ?_
    have hcontent := content_advance turn (front :: others)
    rw [hempty] at hcontent
    simp at hcontent

/-- Flights that are started hold what the resolver answers for their nodes. -/
theorem content_start (resolver : Resolver) (nodes : List Node) :
    (nodes.map (Flight.start resolver)).map Flight.content =
      nodes.map fun node => (node, (resolver.resolve node).answer) := by
  rw [List.map_map]
  rfl

/-- Under every scheduling, the answer is the one that is got one after another. -/
theorem answer_run (resolver : Resolver) (scheduling : Scheduling) (nodes : List Node) :
    (resolver.run scheduling nodes).answer = (resolver.inSequence nodes).answer := by
  cases scheduling with
  | sequential => rfl
  | bounded limit =>
    have hheld : ∀ content ∈
        ((nodes.take (max limit 1)).map (Flight.start resolver)).map Flight.content,
        content.2 = (resolver.resolve content.1).answer := by
      rw [content_start]
      intro content hmem
      obtain ⟨node, -, rfl⟩ := List.mem_map.mp hmem
      rfl
    have hplaces : (nodes.take (max limit 1)).map (Flight.start resolver) = [] →
        nodes.drop (max limit 1) = [] := by
      intro hempty
      rw [List.map_eq_nil_iff, List.take_eq_nil_iff] at hempty
      rcases hempty with hzero | rfl
      · omega
      · simp
    have hnodes : (((nodes.take (max limit 1)).map (Flight.start resolver)).map
        Flight.content).map Prod.fst ++ nodes.drop (max limit 1) = nodes := by
      rw [content_start]
      simp [Function.comp_def]
    exact (answer_inWindow 0 _ _ hheld hplaces).trans (by rw [hnodes])

end Resolver

end TypedStore
