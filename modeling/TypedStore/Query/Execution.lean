import TypedStore.Filter.Compile
import TypedStore.Query.Plan

/-!
# Answering queries

A plan that holds the answer is answered by it; of several nodes the first in the
order of a scan is taken if one is enough. In a full scan the filter is compiled and
applied to the candidates, and what is found is sorted. A query for many nodes that
finds none is told apart from one that finds some. Only a full scan can stop: at a fault
of its filter, or where making a matcher panics.
-/

namespace TypedStore

/-- The nodes that a query has found. -/
inductive Outcome where
  | notFound
  | found (nodes : List StampedNode)

namespace Outcome

/-- The nodes, in order. -/
def nodes : Outcome → List StampedNode
  | notFound => []
  | found nodes => nodes

/-- Something counts as found. -/
def isFound : Outcome → Bool
  | notFound => false
  | found _ => true

end Outcome

/-- The answer to a query. -/
structure Answer where
  outcome : Outcome
  scan : ScanKind
  /-- How many candidates were looked at. -/
  scanned : Nat

namespace Query

/-- The place of a type in the order of a scan; a type that is not asked for comes last. -/
def typeRank (types : List String) (type : String) : Nat := types.findIdx (· = type)

/-- One node comes before another one in a scan: its type comes earlier, or its id. -/
def scannedBefore (types : List String) (a b : StampedNode) : Bool :=
  let i := typeRank types a.type
  let j := typeRank types b.type
  i < j || (i = j && a.id < b.id)

/-- The first of some nodes in the order of a scan. -/
def firstScanned (types : List String) : List StampedNode → Option StampedNode
  | [] => none
  | node :: rest =>
      some (rest.foldl (fun best next => if scannedBefore types next best then next else best) node)

/-- The first candidate that passes a filter, and how many were looked at. -/
def scanFirst (filter : Filter) : List StampedNode → Option StampedNode × Nat
  | [] => (none, 0)
  | node :: rest =>
      if filter.matchesNode node then (some node, 1)
      else
        let (found, scanned) := scanFirst filter rest
        (found, scanned + 1)

/-- Nodes in the order that a query asks for. -/
def sorted (query : Query) (nodes : List StampedNode) : List StampedNode :=
  match query.sort with
  | some spec => spec.sort query.redirects nodes
  | none => nodes

/-- Look up the id that a query asks for. -/
def answerById (query : Query) (store : Store) (id : String) : Outcome :=
  match store.findAmong? id query.types with
  | some stamped => .found [stamped]
  | none => if query.firstOnly then .found [] else .notFound

variable [PatternEngine]

/-- Scan candidates for a query. -/
def scan (query : Query) (store : Store) (candidates : List StampedNode) :
    Except (Stop FilterError) (Outcome × Nat) :=
  match Filter.compile query.redirects query.filter with
  | .error e => .error e
  | .ok filter =>
    match idEquality? query.filter with
    | some id => .ok (query.answerById store id, 1)
    | none =>
      if query.firstOnly then
        let (found, scanned) := scanFirst filter candidates
        .ok (.found found.toList, scanned)
      else
        match candidates.filter filter.matchesNode with
        | [] => .ok (.notFound, candidates.length)
        | node :: nodes => .ok (.found (query.sorted (node :: nodes)), candidates.length)

/-- Answer a query by a plan. -/
def execute (query : Query) (store : Store) (plan : Plan) : Except (Stop FilterError) Answer :=
  match plan.scan with
  | .full =>
      (query.scan store plan.candidates).map fun (outcome, scanned) => ⟨outcome, .full, scanned⟩
  | scan =>
      let nodes :=
        if query.firstOnly ∧ scan = .indexed then
          (firstScanned query.types plan.candidates).toList
        else plan.candidates
      .ok ⟨.found nodes, scan, plan.candidates.length⟩

end Query

end TypedStore
