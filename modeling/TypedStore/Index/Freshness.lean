/-!
# Freshness of indexes

An index is a view of the store at one time. Whether it is still used after the
store has changed is a matter of policy.
-/

namespace TypedStore

/-- When a built index is used. -/
inductive Freshness where
  /-- Only while the store has not changed. -/
  | generation
  /-- For ever. -/
  | never
deriving DecidableEq, Repr

namespace Freshness

/-- The name of a policy in the journal. -/
def label : Freshness → String
  | generation => "Generation"
  | never => "Never"

/-- The word used in settings. -/
def word : Freshness → String
  | generation => "generation"
  | never => "never"

/-- An index that was built at one generation of the store is used at another one. -/
def accepts (policy : Freshness) (built current : Nat) : Bool :=
  match policy with
  | never => true
  | generation => built = current

end Freshness

end TypedStore
