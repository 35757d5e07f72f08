/-!
# Scheduling of resolvers

Resolvers of one type run one after another, or several at a time.
-/

namespace TypedStore

/-- How the resolvers of the nodes of one type are scheduled. -/
inductive Scheduling where
  /-- Each is waited for before the next one starts. -/
  | sequential
  /-- At most so many are under way at a time; none counts as one. -/
  | bounded (limit : Nat)
deriving DecidableEq, Repr

namespace Scheduling

/-- The name of a scheduling in the journal. -/
def label : Scheduling → String
  | sequential => "Sequential"
  | bounded limit => "Bounded(" ++ toString limit ++ ")"

/-- How many resolvers may be under way at a time. -/
def width : Scheduling → Nat
  | sequential => 1
  | bounded limit => max limit 1

end Scheduling

end TypedStore
