import TypedStore.Node
import TypedStore.Store.Scheduling

/-!
# Resolving nodes within a window

A resolver gives a value for a node or fails; before it answers it may be suspended
a number of times. One at a time, the nodes are resolved in order up to the first
failure. In a window several resolvers are under way; whichever of them goes on, the
answers are taken in the order of the nodes, and a new resolver is started for each
answer taken.
-/

namespace TypedStore

-- Sums start at the zero of the numbers themselves, whatever other zeros there are.
attribute [local instance(2000)] Zero.ofOfNat0

/-- What a resolver does for a node: how often it is suspended, and its answer. -/
structure Resolution where
  suspensions : Nat
  answer : Except String Json

/-- A resolver, and the turns in which those that are under way go on: at each step
the turn tells, counted round, which of the suspended ones it is. -/
structure Resolver where
  resolve : Node → Resolution
  turn : Nat → Nat

/-- What came of resolving some nodes: the nodes whose resolver was called, in order,
and the values by id, or the first node that failed with the reason. -/
structure Resolved where
  called : List Node
  answer : Except (Node × String) (List (String × Json))

namespace Resolved

/-- Put a value before the others. -/
def cons (id : String) (value : Json) (resolved : Resolved) : Resolved :=
  { resolved with answer := resolved.answer.map ((id, value) :: ·) }

/-- Put nodes before the others that were called. -/
def calling (nodes : List Node) (resolved : Resolved) : Resolved :=
  { resolved with called := nodes ++ resolved.called }

end Resolved

/-- Resolve nodes one after another. -/
def Resolver.inSequence (resolver : Resolver) : List Node → Resolved
  | [] => ⟨[], .ok []⟩
  | node :: rest =>
      match (resolver.resolve node).answer with
      | .error reason => ⟨[node], .error (node, reason)⟩
      | .ok value => ((resolver.inSequence rest).cons node.id value).calling [node]

/-- A resolver that is under way. -/
structure Flight where
  node : Node
  suspensions : Nat
  answer : Except String Json

namespace Flight

/-- Start a resolver for a node. -/
def start (resolver : Resolver) (node : Node) : Flight :=
  ⟨node, (resolver.resolve node).suspensions, (resolver.resolve node).answer⟩

/-- How many flights are suspended. -/
def suspended (flights : List Flight) : Nat := flights.countP fun flight => flight.suspensions ≠ 0

/-- Let a suspended flight go on, the one with a given number among them. -/
def advance : Nat → List Flight → List Flight
  | _, [] => []
  | turn, flight :: rest =>
      if flight.suspensions = 0 then flight :: advance turn rest
      else
        match turn with
        | 0 => { flight with suspensions := flight.suspensions - 1 } :: rest
        | turn + 1 => flight :: advance turn rest

/-- The work that is left in flights: their suspensions, and one step for each. -/
def work (flights : List Flight) : Nat := (flights.map fun flight => flight.suspensions + 1).sum

theorem work_advance_lt {turn : Nat} {flights : List Flight} (h : turn < suspended flights) :
    work (advance turn flights) < work flights := by
  induction flights generalizing turn with
  | nil => simp [suspended] at h
  | cons flight rest ih =>
    by_cases hz : flight.suspensions = 0
    · have h' : turn < suspended rest := by simpa [suspended, hz] using h
      have := ih h'
      simp only [work, List.map_cons, List.sum_cons] at this ⊢
      simp only [advance, hz, if_true, List.map_cons, List.sum_cons]
      omega
    · cases turn with
      | zero =>
        simp only [advance, hz, if_false, work, List.map_cons, List.sum_cons]
        omega
      | succ turn =>
        have h' : turn < suspended rest := by
          have : turn + 1 < suspended rest + 1 := by simpa [suspended, hz] using h
          omega
        have := ih h'
        simp only [work, List.map_cons, List.sum_cons] at this ⊢
        simp only [advance, hz, if_false, List.map_cons, List.sum_cons]
        omega

end Flight

/-- Go on with the flights of a window, and with the nodes that wait for a place in it. -/
def Resolver.inWindow (resolver : Resolver) (step : Nat) (flights : List Flight)
    (waiting : List Node) : Resolved :=
  match flights with
  | [] => ⟨[], .ok []⟩
  | front :: others =>
      if hz : front.suspensions = 0 then
        match front.answer with
        | .error reason => ⟨[], .error (front.node, reason)⟩
        | .ok value =>
          match waiting with
          | [] => (resolver.inWindow step others []).cons front.node.id value
          | next :: rest =>
              ((resolver.inWindow step (others ++ [Flight.start resolver next]) rest).cons
                front.node.id value).calling [next]
      else
        let turn := resolver.turn step % Flight.suspended (front :: others)
        resolver.inWindow (step + 1) (Flight.advance turn (front :: others)) waiting
termination_by
  Flight.work flights + (waiting.map fun node => Flight.work [Flight.start resolver node]).sum
decreasing_by
  · simp [Flight.work]
  · simp [Flight.work]
    omega
  · have hpos : 0 < Flight.suspended (front :: others) := by simp [Flight.suspended, hz]
    have := Flight.work_advance_lt (Nat.mod_lt (resolver.turn step) hpos)
    omega

/-- Resolve nodes under a scheduling. -/
def Resolver.run (resolver : Resolver) (scheduling : Scheduling) (nodes : List Node) : Resolved :=
  match scheduling with
  | .sequential => resolver.inSequence nodes
  | .bounded limit =>
      let width := max limit 1
      let first := nodes.take width
      (resolver.inWindow 0 (first.map (Flight.start resolver)) (nodes.drop width)).calling first

end TypedStore
