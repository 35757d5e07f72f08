/-!
# Faults of nodes and stores

What can be wrong with a node or with an operation on the store, and the words
for it.
-/

namespace TypedStore

/-- What keeps a JSON value from being a node. -/
inductive Malformation where
  | notAnObject
  /-- No text is found at a path. -/
  | missingText (path : String)
deriving DecidableEq, Repr

/-- The words for what keeps a JSON value from being a node. -/
def Malformation.message : Malformation → String
  | notAnObject => "node must be a JSON object"
  | missingText path => "missing string '" ++ path ++ "'"

/-- Why the store refuses an operation. -/
inductive StoreError where
  | malformed (cause : Malformation)
  /-- The node with this id already has another type. -/
  | typeChanged (id existing requested : String)
  /-- The resolver gave no value for a node. -/
  | resolverFailed (id type reason : String)
deriving DecidableEq, Repr

/-- The words for a refused operation. -/
def StoreError.message : StoreError → String
  | malformed cause => "Malformed node: " ++ cause.message
  | typeChanged id existing requested =>
      "Node '" ++ id ++ "' has type '" ++ existing ++ "' and cannot become '" ++ requested ++ "'"
  | resolverFailed id type reason =>
      "Resolver failed for node '" ++ id ++ "' of type '" ++ type ++ "': " ++ reason

end TypedStore
